import Custodian.Agent.Registration
import Custodian.Report

/-!
# The state of a package at the appliance

The appliance is asked for the state of a package by its identifier. A package without one is
registered first. Once the appliance reports that the package is replicated, the package counts
as uploaded.
-/

namespace Custodian.Agent

open Appliance
open Json (Value)

variable {σ : Type}

/-! ### Asking -/

/-- The value in the answer to a question. -/
def answeredValue (request : Request) (subject : Subject) : Exchange → Except Error Value
  | .answered status bytes =>
    let body := Utf8.decodeForgiving bytes
    if status = 200 then
      match Value.read? body with
      | some v => .ok v
      | none => .error (.format subject)
    else .error (.protocol request.url status body)
  | .unreachable => .error (.transport request.method request.url)
  | .closed => .error (.transport request.method request.url)
  | .truncated _ => .error (.transport request.method request.url)

/-- Asks for the value at a URL. -/
def ask (s : Surroundings σ) (url : Text) (subject : Subject) : Job σ Package Error Value := do
  let request : Request := ⟨.get, url, .nothing⟩
  let exchange ← Job.exchange s request
  Job.ofExcept (answeredValue request subject exchange)

/-- The URL that tells the state of a package with an identifier. -/
def statusUrl (s : Surroundings σ) (p : Package) (id : Text) : Text :=
  match p.shape with
  | .compressed _ => s.endpoints.fileReleaseStatus id
  | .uncompressed => s.endpoints.manifestStatus id

/-- Registers the package unless it has an identifier. Whether that works shows in the identifier. -/
def ensureRegistered (s : Surroundings σ) : Job σ Package Error Unit := do
  let p ← Job.held
  match p.identifier? with
  | some _ => return ()
  | none =>
    let _ ← Job.outcome (register s (p.fullPath s.spaceRoot))
    return ()

/-- Asks for the state of the package. -/
def fetchStatus (s : Surroundings σ) : Job σ Package Error Value := do
  ensureRegistered s
  let p ← Job.held
  match p.identifier? with
  | none => throw .notRegistered
  | some id => ask s (statusUrl s p id) .package

/-! ### Replication -/

/-- The replication that is reported for the package whose state is `payload`. The state of a bag may
leave it out, and then its tag file tells it. -/
def replicationReport (s : Surroundings σ) (payload : Value) : Job σ Package Error Text := do
  let p ← Job.held
  match p.shape with
  | .compressed _ =>
    return ((payload.get? FileRelease.fileInformationName).bind Replication.report?).getD []
  | .uncompressed =>
    match Replication.report? payload with
    | some report => return report
    | none =>
      let info ← ask s (s.endpoints.bagInfo p.location p.currentPath) .file
      return (Replication.report? info).getD []

/-- Marks the package as uploaded and saves it, unless it is marked already. -/
def markUploaded (s : Surroundings σ) : Job σ Package Error Unit := do
  let p ← Job.held
  if p.status = .uploaded then return ()
  else
    Job.change fun p => { p with status := .uploaded }
    Job.save s

/-- Asks for the replication of the package and marks it as uploaded once it is complete. -/
def reconcile (s : Surroundings σ) : Job σ Package Error StatusUpdate := do
  let payload ← fetchStatus s
  let report ← replicationReport s payload
  if Replication.ofReport report = .green then markUploaded s
  let p ← Job.held
  return ⟨some p.status, "Replication status: " ++ report⟩

end Custodian.Agent
