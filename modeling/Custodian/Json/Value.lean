import Custodian.Json.Number
import Custodian.Table

/-!
# JSON values

The members of an object are kept in the order in which they are written. Reading a free-form
object makes a table of them: sorted by name, each name once, the last one of equals.
-/

namespace Custodian.Json

/-- A JSON value. -/
inductive Value where
  | null
  | bool (b : Bool)
  | number (n : Number)
  | string (t : Text)
  | array (items : List Value)
  | object (members : List (Text × Value))

abbrev Members := Table Value

instance : Inhabited Value := ⟨.null⟩

namespace Value

/-- The member of an object; other values have none. -/
def get? (name : Text) : Value → Option Value
  | .object ms => Table.get? name ms
  | _ => none

/-- The text of a string value. -/
def text? : Value → Option Text
  | .string t => some t
  | _ => none

def ofNat (n : Nat) : Value :=
  .number (.integer n)

/-- A text that may be missing; `null` stands for a missing one. -/
def ofText? : Option Text → Value
  | none => .null
  | some t => .string t

/-- A truth value that may be missing; `null` stands for a missing one. -/
def ofBool? : Option Bool → Value
  | none => .null
  | some b => .bool b

end Value

/-! ### Equality -/

mutual

def decideEqual : (a b : Value) → Decidable (a = b)
  | .null, .null => isTrue rfl
  | .bool a, .bool b => decidable_of_iff (a = b) (by simp)
  | .number a, .number b => decidable_of_iff (a = b) (by simp)
  | .string a, .string b => decidable_of_iff (a = b) (by simp)
  | .array a, .array b =>
    match decideEqualItems a b with
    | isTrue h => isTrue (by rw [h])
    | isFalse h => isFalse (by simpa using h)
  | .object a, .object b =>
    match decideEqualMembers a b with
    | isTrue h => isTrue (by rw [h])
    | isFalse h => isFalse (by simpa using h)
  | .null, .bool _ | .null, .number _ | .null, .string _ | .null, .array _ | .null, .object _
  | .bool _, .null | .bool _, .number _ | .bool _, .string _ | .bool _, .array _
  | .bool _, .object _
  | .number _, .null | .number _, .bool _ | .number _, .string _ | .number _, .array _
  | .number _, .object _
  | .string _, .null | .string _, .bool _ | .string _, .number _ | .string _, .array _
  | .string _, .object _
  | .array _, .null | .array _, .bool _ | .array _, .number _ | .array _, .string _
  | .array _, .object _
  | .object _, .null | .object _, .bool _ | .object _, .number _ | .object _, .string _
  | .object _, .array _ => isFalse (by simp)

/-- Whether two lists of items are equal. -/
def decideEqualItems : (a b : List Value) → Decidable (a = b)
  | [], [] => isTrue rfl
  | [], _ :: _ | _ :: _, [] => isFalse (by simp)
  | a :: as, b :: bs =>
    match decideEqual a b, decideEqualItems as bs with
    | isTrue h, isTrue hs => isTrue (by rw [h, hs])
    | isFalse h, _ => isFalse (by simp [h])
    | _, isFalse hs => isFalse (by simp [hs])

/-- Whether two lists of members are equal. -/
def decideEqualMembers : (a b : List (Text × Value)) → Decidable (a = b)
  | [], [] => isTrue rfl
  | [], _ :: _ | _ :: _, [] => isFalse (by simp)
  | (m, a) :: as, (n, b) :: bs =>
    match decEq m n, decideEqual a b, decideEqualMembers as bs with
    | isTrue hm, isTrue h, isTrue hs => isTrue (by rw [hm, h, hs])
    | isFalse hm, _, _ => isFalse (by simp [hm])
    | _, isFalse h, _ => isFalse (by simp [h])
    | _, _, isFalse hs => isFalse (by simp [hs])

end

instance : DecidableEq Value := decideEqual

end Custodian.Json
