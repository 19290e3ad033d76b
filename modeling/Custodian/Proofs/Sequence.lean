import Mathlib.Data.List.Forall2
import Mathlib.Data.List.Infix
import Mathlib.Tactic.Common

/-!
# Sequences

Items that are read one by one, and the beginnings of a sequence.
-/

namespace Custodian

variable {α β : Type}

/-- Items are read one by one if each of them is. -/
lemma mapM_eq_some_iff {f : α → Option β} {as : List α} {bs : List β} :
    as.mapM f = some bs ↔ List.Forall₂ (fun a b => f a = some b) as bs := by
  induction as generalizing bs with
  | nil => simp [eq_comm]
  | cons a as ih =>
    rw [List.mapM_cons, List.forall₂_cons_left_iff]
    simp only [Option.bind_eq_bind, Option.bind_eq_some_iff, ih, Option.pure_def, Option.some_inj]
    constructor
    · rintro ⟨b, hb, bs, hbs, rfl⟩
      exact ⟨b, bs, hb, hbs, rfl⟩
    · rintro ⟨b, bs, hb, hbs, rfl⟩
      exact ⟨b, hb, bs, hbs, rfl⟩

/-- Each beginning of a sequence is one of the beginnings that come after it. -/
lemma pairwise_inits (as : List α) : as.inits.Pairwise (· <+: ·) := by
  induction as with
  | nil => exact List.pairwise_singleton _ _
  | cons a as ih =>
    rw [List.inits_cons, List.pairwise_cons, List.pairwise_map]
    exact ⟨fun _ _ => List.nil_prefix, ih.imp fun h => List.cons_prefix_cons.2 ⟨rfl, h⟩⟩

end Custodian
