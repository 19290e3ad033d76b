import Custodian.Text.Basic

/-!
# Tables

A table maps names to values. It is a list of entries; `insert` keeps it in ascending order of the
names with each name once, so equal maps are equal lists.
-/

namespace Custodian

/-- A map from names, as a list of entries. -/
abbrev Table (α : Type) := List (Text × α)

namespace Table

variable {α : Type}

def get? (name : Text) : Table α → Option α
  | [] => none
  | (n, v) :: entries => if n = name then some v else get? name entries

/-- Gives a name a value: in the place of the old one, or else before the first greater name. -/
def insert (name : Text) (value : α) : Table α → Table α
  | [] => [(name, value)]
  | (n, v) :: entries =>
    if name < n then (name, value) :: (n, v) :: entries
    else if n = name then (name, value) :: entries
    else (n, v) :: insert name value entries

def erase (name : Text) (entries : Table α) : Table α :=
  entries.filter fun e => e.1 ≠ name

/-- The table of some entries; of equal names the last one counts. -/
def ofList (entries : List (Text × α)) : Table α :=
  entries.foldl (fun table e => insert e.1 e.2 table) []

def names (entries : Table α) : List Text :=
  entries.map (·.1)

/-! ### What is found after a change -/

/-- A name has the value that it was given. -/
@[simp]
theorem get?_insert_self (name : Text) (value : α) (t : Table α) :
    get? name (insert name value t) = some value := by
  induction t with
  | nil => simp [insert, get?]
  | cons e t ih =>
    unfold insert
    split
    · simp [get?]
    · split
      · simp [get?]
      · simp_all [get?]

/-- The other names keep their values. -/
theorem get?_insert_of_ne {name other : Text} (h : other ≠ name) (value : α) (t : Table α) :
    get? other (insert name value t) = get? other t := by
  induction t with
  | nil => simp [insert, get?, h.symm]
  | cons e t ih =>
    unfold insert
    split
    · simp [get?, h.symm]
    · split
      · simp_all [get?, h.symm]
      · simp [get?, ih]

/-- A name that was taken out has no value. -/
theorem get?_erase (name other : Text) (t : Table α) :
    get? other (erase name t) = if other = name then none else get? other t := by
  induction t with
  | nil => simp [erase, get?]
  | cons e t ih =>
    by_cases he : e.1 = name
    · by_cases ho : other = name
      · simp_all [erase]
      · have : e.1 ≠ other := fun h => ho (h.symm.trans he)
        simp_all [erase, get?]
    · by_cases ho : e.1 = other
      · simp_all [erase, get?]
      · simp_all [erase, get?]

end Table

end Custodian
