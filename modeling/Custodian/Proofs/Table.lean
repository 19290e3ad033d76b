import Custodian.Table
import Mathlib.Data.List.Induction
import Mathlib.Data.List.Nodup
import Mathlib.Tactic.Common

/-!
# Tables in order

A table that is made by insertions has its names in ascending order, each of them once. Such a table is
made again from its own entries (`ofList_of_isAscending`). It does not matter in which order different names
get their values (`ofList_perm`).
-/

namespace Custodian.Table

variable {α : Type} {name : Text} {value : α} {t : Table α}

/-- Whether the names ascend, so that each of them stands there once. -/
def IsAscending (t : Table α) : Prop :=
  t.Pairwise fun a b => a.1 < b.1

lemma isAscending_nil : IsAscending ([] : Table α) :=
  List.Pairwise.nil

lemma isAscending_iff_names : IsAscending t ↔ (names t).Pairwise (· < ·) :=
  List.pairwise_map.symm

/-- Whether names ascend depends on nothing but the names. -/
lemma IsAscending.of_names {u : Table α} (h : IsAscending t) (same : names u = names t) : IsAscending u := by
  rw [isAscending_iff_names, same]
  exact isAscending_iff_names.1 h

lemma mem_insert {e : Text × α} (h : e ∈ insert name value t) : e = (name, value) ∨ e ∈ t := by
  induction t with
  | nil => simpa [insert] using h
  | cons f t ih =>
    unfold insert at h
    split at h
    · simpa using h
    · split at h
      · rcases List.mem_cons.1 h with h | h
        · exact .inl h
        · exact .inr (List.mem_cons_of_mem _ h)
      · rcases List.mem_cons.1 h with h | h
        · exact .inr (h ▸ List.mem_cons_self)
        · exact (ih h).imp_right (List.mem_cons_of_mem _)

lemma mem_names_insert {other : Text} :
    other ∈ names (insert name value t) ↔ other = name ∨ other ∈ names t := by
  induction t with
  | nil => simp [insert, names]
  | cons e t ih =>
    simp only [names, List.map_cons, List.mem_cons] at ih ⊢
    unfold insert
    split
    · simp
    · split
      · next heq => simp [heq]
      · rw [List.map_cons, List.mem_cons, ih, or_left_comm]

lemma mem_of_get? (h : get? name t = some value) : (name, value) ∈ t := by
  induction t with
  | nil => cases h
  | cons e t ih =>
    unfold get? at h
    split at h
    · next hname =>
      obtain rfl := Option.some.inj h
      exact hname ▸ List.mem_cons_self
    · exact List.mem_cons_of_mem _ (ih h)

/-- An entry stays, unless its name gets another value. -/
lemma mem_insert_of_mem (name : Text) (value : α) {e : Text × α} (h : e ∈ t) :
    e ∈ insert name value t ∨ get? name t = some e.2 := by
  induction t with
  | nil => cases h
  | cons f t ih =>
    unfold insert get?
    split
    · exact .inl (List.mem_cons_of_mem _ h)
    · split
      · rcases List.mem_cons.1 h with rfl | h
        · exact .inr rfl
        · exact .inl (List.mem_cons_of_mem _ h)
      · rcases List.mem_cons.1 h with rfl | h
        · exact .inl List.mem_cons_self
        · exact (ih h).imp_left (List.mem_cons_of_mem _)

lemma IsAscending.insert (h : IsAscending t) (name : Text) (value : α) :
    IsAscending (insert name value t) := by
  induction t with
  | nil => exact List.pairwise_singleton _ _
  | cons f t ih =>
    obtain ⟨hf, ht⟩ := List.pairwise_cons.1 h
    unfold Table.insert
    split
    · next hlt =>
      refine List.pairwise_cons.2 ⟨?_, h⟩
      intro e he
      rcases List.mem_cons.1 he with rfl | he
      · exact hlt
      · exact List.lt_trans hlt (hf e he)
    · next hge =>
      split
      · next heq => exact List.pairwise_cons.2 ⟨fun e he => heq ▸ hf e he, ht⟩
      · next hne =>
        refine List.pairwise_cons.2 ⟨?_, ih ht⟩
        intro e he
        rcases mem_insert he with rfl | he
        · exact (List.le_iff_lt_or_eq.1 (List.not_lt.1 hge)).resolve_right hne
        · exact hf e he

/-- In a table in order, every entry is the value of its name. -/
lemma IsAscending.get?_of_mem (h : IsAscending t) (hmem : (name, value) ∈ t) : get? name t = some value := by
  induction t with
  | nil => cases hmem
  | cons e t ih =>
    obtain ⟨first, rest⟩ := List.pairwise_cons.1 h
    rcases List.mem_cons.1 hmem with rfl | hmem
    · simp [get?]
    · have hne : e.1 ≠ name := fun heq => List.lt_irrefl _ (heq ▸ first _ hmem)
      rw [get?, if_neg hne]
      exact ih rest hmem

/-- In a table in order, what has a smaller name than an entry comes before it. -/
lemma IsAscending.mem_of_lt {before after : List (Text × α)} {other : Text} {value' : α}
    (h : IsAscending (before ++ (name, value) :: after))
    (hmem : (other, value') ∈ before ++ (name, value) :: after) (hlt : other < name) :
    (other, value') ∈ before := by
  rcases List.mem_append.1 hmem with hmem | hmem
  · exact hmem
  · rcases List.mem_cons.1 hmem with heq | hmem
    · obtain ⟨rfl, -⟩ := Prod.mk.inj heq
      exact absurd hlt (List.lt_irrefl _)
    · have hgt := (List.pairwise_cons.1 (List.pairwise_append.1 h).2.1).1 _ hmem
      exact absurd hgt (List.lt_asymm hlt)

/-- A greater name than all others comes last. -/
lemma insert_of_forall_lt (h : ∀ e ∈ t, e.1 < name) : insert name value t = t ++ [(name, value)] := by
  induction t with
  | nil => rfl
  | cons f t ih =>
    have hf : f.1 < name := h f List.mem_cons_self
    unfold insert
    rw [if_neg (List.lt_asymm hf), if_neg fun heq => List.lt_irrefl _ (heq ▸ hf),
      ih fun e he => h e (List.mem_cons_of_mem _ he)]
    rfl

section OfList

variable (entries : List (Text × α))

lemma isAscending_ofList : IsAscending (ofList entries) := by
  have key : ∀ made : Table α, IsAscending made →
      IsAscending (entries.foldl (fun table e => insert e.1 e.2 table) made) := by
    induction entries with
    | nil => exact fun _ h => h
    | cons e entries ih => exact fun made h => ih _ (h.insert e.1 e.2)
  exact key [] isAscending_nil

lemma mem_ofList {e : Text × α} (h : e ∈ ofList entries) : e ∈ entries := by
  have key : ∀ made : Table α, e ∈ entries.foldl (fun table e => insert e.1 e.2 table) made →
      e ∈ made ∨ e ∈ entries := by
    clear h
    induction entries with
    | nil => exact fun _ h => .inl h
    | cons f entries ih =>
      intro made h
      rcases ih _ h with h | h
      · rcases mem_insert h with rfl | h
        · exact .inr List.mem_cons_self
        · exact .inl h
      · exact .inr (List.mem_cons_of_mem _ h)
  exact (key [] h).resolve_left (by simp)

/-- A table has the names of the entries from which it is made. -/
lemma mem_names_ofList : name ∈ names (ofList entries) ↔ name ∈ names entries := by
  induction entries using List.reverseRecOn with
  | nil => rfl
  | append_singleton entries e ih =>
    have hlast : ofList (entries ++ [e]) = insert e.1 e.2 (ofList entries) := by
      simp only [ofList, List.foldl_append, List.foldl_cons, List.foldl_nil]
    rw [hlast, mem_names_insert, ih]
    simp [names, or_comm]

/-- **A table in order is made again** from its entries. -/
theorem ofList_of_isAscending {entries : List (Text × α)} (h : IsAscending entries) :
    ofList entries = entries := by
  -- What has been made so far stands before the entries that are left.
  have key : ∀ (left made : Table α), IsAscending (made ++ left) →
      left.foldl (fun table e => insert e.1 e.2 table) made = made ++ left := by
    intro left
    induction left with
    | nil => simp
    | cons e left ih =>
      intro made h
      have hlast : insert e.1 e.2 made = made ++ [e] :=
        insert_of_forall_lt fun f hf => (List.pairwise_append.1 h).2.2 f hf e List.mem_cons_self
      rw [List.foldl_cons, hlast, ih _ (by simpa using h)]
      simp
  exact key entries [] h

end OfList

/-! ### The order of insertions -/

/-- Two names get their values in either order. -/
lemma insert_comm {name name' : Text} (h : name ≠ name') (value value' : α) (t : Table α) :
    insert name' value' (insert name value t) = insert name value (insert name' value' t) := by
  have trans : ∀ a b c : Text, a < b → b < c → a < c := fun _ _ _ => List.lt_trans
  have asymm : ∀ a b : Text, a < b → ¬ b < a := fun _ _ => List.lt_asymm
  have antisymm : ∀ a b : Text, ¬ a < b → ¬ b < a → a = b :=
    fun a b hab hba => List.le_antisymm (List.not_lt.1 hba) (List.not_lt.1 hab)
  induction t with
  | nil => grind [insert]
  | cons e t ih => grind [insert]

/-- **The order of the entries** of which a table is made does not matter if their names are distinct. -/
theorem ofList_perm {entries entries' : List (Text × α)} (h : entries.Perm entries')
    (distinct : (names entries).Nodup) : ofList entries = ofList entries' := by
  apply h.foldl_eq'
  intro e he f hf t
  by_cases hname : e.1 = f.1
  · rw [List.inj_on_of_nodup_map distinct he hf hname]
  · exact insert_comm hname e.2 f.2 t

end Custodian.Table
