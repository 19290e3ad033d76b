import Custodian.Appliance.Payload
import Custodian.Package.Basic

/-!
# Reports

What the agent answers to questions about a package: how far its replication has come, and what the
last fixity check found.
-/

namespace Custodian

open Json (Value)

/-- The outcome of asking for the replication of a package. -/
structure StatusUpdate where
  /-- The status now, or `none` if the appliance could not be asked. -/
  status : Option Status
  message : Text
deriving DecidableEq

/-- A status update as an object. -/
def StatusUpdate.toJson (u : StatusUpdate) : Value :=
  .object [("status", .ofText? (u.status.map (·.name))), ("message", .string u.message)]

/-- The outcome of asking for the last fixity check. -/
structure FixityReport where
  /-- The verdict, or `none` while there is none. -/
  success : Option Bool
  errors : List Appliance.FixityFailure
  /-- Why there is no success; empty if there is one. -/
  message : Text
  /-- When the check was made. -/
  timestamp : Option Text
deriving DecidableEq

namespace FixityReport

/-- The report of a check that could not be asked for. -/
def failed (message : Text) : FixityReport :=
  ⟨some false, [], message, none⟩

def toJson (r : FixityReport) : Value :=
  .object [
    ("success", .ofBool? r.success),
    ("errors", .array (r.errors.map (·.toJson))),
    ("message", .string r.message),
    ("timestamp", .ofText? r.timestamp)]

end FixityReport

end Custodian
