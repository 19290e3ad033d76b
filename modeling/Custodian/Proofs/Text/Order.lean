import Custodian.Text.Basic
import Mathlib.Tactic.Common

/-!
# Texts in order

Sorting puts texts in ascending order. There is one such order, so it does not matter in which order the
texts were before.
-/

namespace Custodian.Text

lemma sort_perm (ts : List Text) : (sort ts).Perm ts :=
  List.mergeSort_perm ts _

section By

variable {α : Type} (key : α → Text)

/-- Whatever is sorted by a text is in the ascending order of these texts. -/
lemma pairwise_sortBy (as : List α) :
    ((as.mergeSort fun a b => !decide (key b < key a)).map key).Pairwise fun a b => ¬b < a := by
  have trans : ∀ a b c : α, (!decide (key b < key a)) = true → (!decide (key c < key b)) = true →
      (!decide (key c < key a)) = true := by
    intro a b c hab hbc
    have hab : ¬key b < key a := by simpa using hab
    have hbc : ¬key c < key b := by simpa using hbc
    have hac : ¬key c < key a := List.not_lt.2 (List.le_trans (List.not_lt.1 hab) (List.not_lt.1 hbc))
    simpa using hac
  have total : ∀ a b : α, (!decide (key b < key a) || !decide (key a < key b)) = true := by
    intro a b
    have hab : ¬key b < key a ∨ ¬key a < key b :=
      (List.le_total (key a) (key b)).imp List.not_lt.2 List.not_lt.2
    simpa using hab
  rw [List.pairwise_map]
  exact (List.pairwise_mergeSort trans total as).imp fun h => by simpa using h

end By

lemma pairwise_sort (ts : List Text) : (sort ts).Pairwise fun a b => ¬b < a := by
  simpa [sort] using pairwise_sortBy id ts

/-- **There is one ascending order.** -/
theorem sort_eq_of_perm {ts ts' : List Text} (h : ts.Perm ts')
    (ascending : ts'.Pairwise fun a b => ¬b < a) : sort ts = ts' := by
  have antisymm : ∀ a b : Text, ¬b < a → ¬a < b → a = b :=
    fun a b hab hba => List.le_antisymm (List.not_lt.1 hab) (List.not_lt.1 hba)
  exact ((sort_perm ts).trans h).eq_of_pairwise (fun a b _ _ => antisymm a b) (pairwise_sort ts) ascending

/-- It does not matter in which order texts are sorted. -/
lemma sort_congr {ts ts' : List Text} (h : ts.Perm ts') : sort ts = sort ts' :=
  sort_eq_of_perm (h.trans (sort_perm ts').symm) (pairwise_sort ts')

end Custodian.Text
