import Custodian.Json.Fields
import Mathlib.Tactic.Common

/-!
# The fields of a record

Any object is a record, and so is an array that has no more items than the record has fields. Of an object, a
field is the member of its name, and of an array the item at its place (`field?`).

* `fields?_eq_some_iff`: a record is read by its fields, and nothing else is read as one.
* `optional?_eq_some_iff`: a field that may be left out is missing, `null` or read as it should be.
-/

namespace Custodian.Json.Value

variable {α : Type} {v : Value} {names : List Text}

/-- What a record has in the field of a name that comes at a place. -/
def field? (name : Text) (place : Nat) : Value → Option Value
  | .object members => Table.get? name members
  | .array items => items[place]?
  | _ => none

/-- The value is a record of so many fields. -/
def IsRecord (count : Nat) : Value → Prop
  | .object _ => True
  | .array items => items.length ≤ count
  | _ => False

/-- What a field holds that may be left out: nothing if it is missing or `null`, and otherwise what its value
is taken to hold. -/
inductive Optionally (Holds : Value → α → Prop) : Option Value → Option α → Prop
  | missing : Optionally Holds none none
  | null : Optionally Holds (some .null) none
  | given {v : Value} {a : α} (ne : v ≠ .null) (holds : Holds v a) : Optionally Holds (some v) (some a)

lemma text?_eq_some_iff {t : Text} : v.text? = some t ↔ v = .string t := by
  cases v <;> simp [text?]

lemma bool?_eq_some_iff {b : Bool} : v.bool? = some b ↔ v = .bool b := by
  cases v <;> simp [bool?]

lemma fields?_of_isRecord (h : v.IsRecord names.length) :
    v.fields? names = some (names.mapIdx fun place name => v.field? name place) := by
  cases v with
  | object members =>
    rw [fields?]
    congr 1
    refine List.ext_getElem? ?_
    intro place
    rw [List.getElem?_map, List.getElem?_mapIdx]
    rfl
  | array items =>
    rw [fields?, positional?, if_neg (Nat.not_lt.2 h)]
    congr 1
    refine List.ext_getElem? ?_
    intro place
    rw [List.getElem?_mapIdx, List.getElem?_append, List.length_map, List.getElem?_map,
      List.getElem?_replicate]
    dsimp only [field?]
    by_cases given : place < items.length
    · have hname : place < names.length := Nat.lt_of_lt_of_le given h
      simp [given, hname]
    · by_cases hname : place < names.length
      · have hleft : place - items.length < names.length - items.length := by omega
        simp [given, hname, hleft]
      · have hbeyond : ¬place - items.length < names.length - items.length := by omega
        simp [given, hname, hbeyond]
  | _ => cases h

/-- **What is read as a record** is a record, and what is read are its fields. -/
theorem fields?_eq_some_iff {fields : List (Option Value)} : v.fields? names = some fields ↔
    v.IsRecord names.length ∧ fields = names.mapIdx fun place name => v.field? name place := by
  by_cases h : v.IsRecord names.length
  · rw [fields?_of_isRecord h, Option.some_inj, eq_comm]
    exact (and_iff_right h).symm
  · refine iff_of_false ?_ fun record => h record.1
    cases v <;> simp_all [fields?, positional?, IsRecord]

lemma optional?_of_ne_null {read : Value → Option α} (ne : v ≠ .null) :
    optional? read (some v) = (read v).map some := by
  cases v with
  | null => exact absurd rfl ne
  | _ => rfl

/-- **A field that may be left out.** -/
theorem optional?_eq_some_iff {read : Value → Option α} {Holds : Value → α → Prop}
    (hread : ∀ v a, read v = some a ↔ Holds v a) {field : Option Value} {a : Option α} :
    optional? read field = some a ↔ Optionally Holds field a := by
  constructor
  · intro h
    unfold optional? at h
    split at h
    · cases h
      exact .missing
    · cases h
      exact .null
    · next v ne =>
      obtain ⟨a, ha, rfl⟩ := Option.map_eq_some_iff.1 h
      exact .given ne ((hread v a).1 ha)
  · rintro (_ | _ | ⟨ne, holds⟩)
    · rfl
    · rfl
    · rw [optional?_of_ne_null ne, (hread _ _).2 holds, Option.map_some]

end Custodian.Json.Value
