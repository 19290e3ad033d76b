import Custodian.Agent.Locality
import Custodian.Timestamp.Reader

/-!
# The last fixity check

The appliance checks bags from time to time. What its state says about the last check is turned into
a verdict, or into none while a check is on its way.
-/

namespace Custodian.Agent

open Appliance

variable {σ : Type}

def completedStatus : Text := "Completed"
def scheduledStatus : Text := "Scheduled"
def greenState : Text := "green"
def amberState : Text := "amber"

/-- The verdict of a check and why it is no success. Here states are compared exactly. -/
def verdict (m : Manifest) : Except Error (Option Bool × Text) :=
  if m.status = some completedStatus ∧ m.replication = some greenState then .ok (some true, [])
  else if m.status = some scheduledStatus ∨ m.replication = some amberState then
    .ok (none, "Arkivum fixity check in progress")
  else match m.failures.getD [] with
    | [] => .error (.noFailures m.status)
    | [failure] => .ok (some false, failure.reason)
    | _ => .ok (some false, "invalid bag")

/-- The report that the state of a bag amounts to. -/
def fixityReport (m : Manifest) : Except Error FixityReport := do
  let (success, message) ← verdict m
  return ⟨success, m.failures.getD [], message, m.fixityLastChecked.bind Timestamp.normalize?⟩

/-- Asks for the last fixity check of the package. -/
def fixity (s : Surroundings σ) : Job σ Package Error FixityReport := do
  let p ← Job.held
  match p.shape with
  | .compressed _ => throw .unsupported
  | .uncompressed =>
    let v ← fetchStatus s
    let m ← Job.ofExcept (decode Manifest.ofJson? .package v)
    Job.ofExcept (fixityReport m)

end Custodian.Agent
