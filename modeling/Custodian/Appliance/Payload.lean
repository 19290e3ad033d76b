import Custodian.Appliance.Replication
import Custodian.Json.Fields
import Custodian.Json.Printer

/-!
# Payloads

The parts of the appliance's answers that matter, as records. Every field may be missing or `null`;
only a failure has to name its reason.
-/

namespace Custodian.Appliance

open Json (Value)

/-- What is known about one file. -/
structure FileInfo where
  id : Option Value
  replication : Option Text
  isLocal : Option Bool
deriving DecidableEq

/-- What went wrong in a fixity check. -/
structure FixityFailure where
  reason : Text
  filePath : Option Text
deriving DecidableEq

/-- The state of a registered file. -/
structure FileRelease where
  fileInformation : Option FileInfo
deriving DecidableEq

/-- The state of a registered bag. -/
structure Manifest where
  id : Option Value
  replication : Option Text
  isLocal : Option Bool
  status : Option Text
  failures : Option (List FixityFailure)
  fixityLastChecked : Option Text
deriving DecidableEq

namespace FileInfo

def fieldNames : List Text := ["id", Replication.fieldName, "local"]

def ofJson? (v : Value) : Option FileInfo := do
  match ← v.fields? fieldNames with
  | [id, replication, isLocal] =>
    return {
      id := ← Value.optional? some id
      replication := ← Value.optional? Value.text? replication
      isLocal := ← Value.optional? Value.bool? isLocal }
  | _ => none

end FileInfo

namespace FixityFailure

def fieldNames : List Text := ["reason", "filepath"]

def ofJson? (v : Value) : Option FixityFailure := do
  match ← v.fields? fieldNames with
  | [some reason, filePath] =>
    return {
      reason := ← reason.text?
      filePath := ← Value.optional? Value.text? filePath }
  | _ => none

def toJson (f : FixityFailure) : Value :=
  .object [("reason", .string f.reason), ("filepath", .ofText? f.filePath)]

def listOfJson? : Value → Option (List FixityFailure)
  | .array items => items.mapM ofJson?
  | _ => none

end FixityFailure

namespace FileRelease

def fileInformationName : Text := "fileInformation"

def ofJson? (v : Value) : Option FileRelease := do
  match ← v.fields? [fileInformationName] with
  | [info] => return { fileInformation := ← Value.optional? FileInfo.ofJson? info }
  | _ => none

end FileRelease

namespace Manifest

def fieldNames : List Text :=
  ["id", Replication.fieldName, "local", "status", "failures", "fixityLastChecked"]

def ofJson? (v : Value) : Option Manifest := do
  match ← v.fields? fieldNames with
  | [id, replication, isLocal, status, failures, fixityLastChecked] =>
    return {
      id := ← Value.optional? some id
      replication := ← Value.optional? Value.text? replication
      isLocal := ← Value.optional? Value.bool? isLocal
      status := ← Value.optional? Value.text? status
      failures := ← Value.optional? FixityFailure.listOfJson? failures
      fixityLastChecked := ← Value.optional? Value.text? fixityLastChecked }
  | _ => none

/-- What the state of the bag says about its files. -/
def fileInfo (m : Manifest) : FileInfo :=
  ⟨m.id, m.replication, m.isLocal⟩

end Manifest

/-- The identifier that a value names: a string that is not empty verbatim, any other value but
`null` written out. -/
def idText? : Value → Option Text
  | .null => none
  | .string [] => none
  | .string t => some t
  | v => some v.compact

end Custodian.Appliance
