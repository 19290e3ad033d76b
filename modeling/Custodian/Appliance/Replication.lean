import Custodian.Json.Value
import Custodian.Text.Blank

/-!
# Replication states

The appliance reports how far a package is replicated as a colour. Blanks around it and the case of
ASCII letters do not count.
-/

namespace Custodian.Appliance

open Json (Value)

/-- How far a package is replicated. -/
inductive Replication where
  | green
  | amber
  | red
  /-- A report that names no colour, as it was given. -/
  | other (report : Text)
deriving DecidableEq

namespace Replication

/-- The state that a report names. -/
def ofReport (report : Text) : Replication :=
  let colour := Text.toLower (Text.trimBlanks report)
  if colour = "green" then .green
  else if colour = "amber" then .amber
  else if colour = "red" then .red
  else .other report

def fieldName : Text := "replicationState"

/-- The report in a payload. A field that is missing or no string is no report. -/
def report? (payload : Value) : Option Text :=
  (payload.get? fieldName).bind Value.text?

end Replication

end Custodian.Appliance
