import Custodian.Json.Raw

/-!
# Reading records

A record with named fields is written as an object, or as an array of its fields in their order.
In an object, fields of other names are skipped. In an array, trailing fields may be missing, but
there must be no more items than fields. A field that is not there is `none`; whether it may be
missing is for the reader of the field to say.

Records are read either from a text as written, where a repeated field is refused and a skipped
field need only be well-formed, or from a value, where names are unique already.
-/

namespace Custodian.Json

/-- The items of an array as fields, if there are at most `count`; the missing ones are `none`. -/
def positional? {α : Type} (count : Nat) (items : List α) : Option (List (Option α)) :=
  if count < items.length then none
  else some (items.map some ++ List.replicate (count - items.length) none)

namespace Raw

/-- The member of a name, `none` within if there is none; refused if there are several. -/
def unique? (members : List (Text × Raw)) (name : Text) : Option (Option Raw) :=
  match members.filter fun m => m.1 = name with
  | [] => some none
  | [m] => some (some m.2)
  | _ => none

def fields? (names : List Text) : Raw → Option (List (Option Raw))
  | .object members => do
    let members ← members.mapM fun (name, r) => name.map fun n => (n, r)
    names.mapM (unique? members)
  | .array items => positional? names.length items
  | _ => none

end Raw

namespace Value

def fields? (names : List Text) : Value → Option (List (Option Value))
  | .object members => some (names.map (Table.get? · members))
  | .array items => positional? names.length items
  | _ => none

/-- A field that may be missing or `null`, and is otherwise read by `read`. -/
def optional? {α : Type} (read : Value → Option α) : Option Value → Option (Option α)
  | none | some .null => some none
  | some v => (read v).map some

def bool? : Value → Option Bool
  | .bool b => some b
  | _ => none

end Value

end Custodian.Json
