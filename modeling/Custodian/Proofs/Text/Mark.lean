import Custodian.Text.Basic
import Mathlib.Data.List.Infix
import Mathlib.Tactic.Common

/-!
# Texts that stand between others

A mark is a text that separates others. A text is cut at the first occurrence of a mark, or at all of them.
What comes after the first occurrence has no influence on where it is (`cutAtMark?_append`). Pieces that are
joined by a mark are found again if none of them makes an occurrence of its own before the mark
(`splitAtMark_join`).
-/

namespace Custodian.Text

/-- The text before the first occurrence of a mark, and what follows that. -/
def cutAtMark? (mark : Text) : Text → Option (Text × Text)
  | [] => (after? mark []).map ([], ·)
  | c :: t =>
    match after? mark (c :: t) with
    | some rest => some ([], rest)
    | none => (cutAtMark? mark t).map fun (before, rest) => (c :: before, rest)

/-- The pieces between the occurrences of a mark. -/
def splitAtMark (mark t : Text) : List Text :=
  match cutAtMark? mark t with
  | none => [t]
  | some (piece, rest) => if _h : rest.length < t.length then piece :: splitAtMark mark rest else [t]
termination_by t.length

variable {mark t rest before piece : Text}

/-! ### The first occurrence -/

/-- Nothing is lost. -/
lemma eq_of_cutAtMark? (h : cutAtMark? mark t = some (before, rest)) : t = before ++ mark ++ rest := by
  induction t generalizing before with
  | nil =>
    obtain ⟨rest', hafter, heq⟩ := Option.map_eq_some_iff.1 h
    cases heq
    exact after?_eq_some_iff.1 hafter
  | cons c t ih =>
    unfold cutAtMark? at h
    split at h
    · next rest' hafter =>
      cases h
      exact after?_eq_some_iff.1 hafter
    · obtain ⟨⟨before', rest'⟩, hcut, heq⟩ := Option.map_eq_some_iff.1 h
      cases heq
      exact congrArg (c :: ·) (ih hcut)

/-- A text that begins with a mark is cut there. -/
lemma cutAtMark?_mark (mark rest : Text) : cutAtMark? mark (mark ++ rest) = some ([], rest) := by
  have hafter : after? mark (mark ++ rest) = some rest := after?_eq_some_iff.2 rfl
  rcases ht : mark ++ rest with _ | ⟨c, t⟩ <;> rw [ht] at hafter
  · rw [cutAtMark?, hafter]
    rfl
  · rw [cutAtMark?, hafter]

lemma cutAtMark?_cons {c : Char} (h : ¬mark <+: c :: t) :
    cutAtMark? mark (c :: t) = (cutAtMark? mark t).map fun (before, rest) => (c :: before, rest) := by
  have hafter : after? mark (c :: t) = none := by
    rcases hc : after? mark (c :: t) with _ | rest
    · rfl
    · exact absurd ⟨rest, (after?_eq_some_iff.1 hc).symm⟩ h
  rw [cutAtMark?, hafter]

/-- **What comes after the first occurrence** has no influence on it. -/
theorem cutAtMark?_append (h : cutAtMark? mark t = some (before, rest)) (more : Text) :
    cutAtMark? mark (t ++ more) = some (before, rest ++ more) := by
  induction t generalizing before with
  | nil =>
    have hnil := eq_of_cutAtMark? h
    simp only [List.nil_eq, List.append_eq_nil_iff] at hnil
    obtain ⟨⟨rfl, rfl⟩, rfl⟩ := hnil
    exact cutAtMark?_mark [] more
  | cons c t ih =>
    by_cases hmark : mark <+: c :: t
    · obtain ⟨rest', heq⟩ := hmark
      rw [← heq, cutAtMark?_mark] at h
      cases h
      rw [← heq, List.append_assoc]
      exact cutAtMark?_mark mark _
    · rw [cutAtMark?_cons hmark] at h
      obtain ⟨⟨before', rest'⟩, hcut, heq⟩ := Option.map_eq_some_iff.1 h
      cases heq
      have hmore : ¬mark <+: c :: (t ++ more) := by
        intro hprefix
        -- the mark is no longer than what it occurs in
        have hlength : mark.length ≤ (c :: t).length := by
          rw [eq_of_cutAtMark? hcut]
          simp only [List.length_cons, List.length_append]
          omega
        exact hmark (List.prefix_of_prefix_length_le hprefix (List.prefix_append (c :: t) more) hlength)
      rw [List.cons_append, cutAtMark?_cons hmore, ih hcut]
      rfl

/-- A text without the mark is not cut. -/
lemma cutAtMark?_eq_none (h : ¬mark <:+: t) : cutAtMark? mark t = none := by
  rcases hcut : cutAtMark? mark t with _ | ⟨before, rest⟩
  · rfl
  · exact absurd ⟨before, rest, (eq_of_cutAtMark? hcut).symm⟩ h

/-- A text with the mark is cut. -/
lemma exists_cutAtMark? (h : mark <:+: t) : ∃ before rest, cutAtMark? mark t = some (before, rest) := by
  induction t with
  | nil =>
    obtain rfl := List.infix_nil.1 h
    exact ⟨[], [], rfl⟩
  | cons c t ih =>
    by_cases hmark : mark <+: c :: t
    · obtain ⟨rest, heq⟩ := hmark
      exact ⟨[], rest, heq ▸ cutAtMark?_mark mark rest⟩
    · obtain ⟨before, rest, hcut⟩ := ih ((List.infix_cons_iff.1 h).resolve_left hmark)
      exact ⟨c :: before, rest, by rw [cutAtMark?_cons hmark, hcut]; rfl⟩

/-- A mark is found where it stands if it does not begin earlier. -/
lemma cutAtMark?_of_not_infix (h : ¬mark <:+: piece ++ mark.dropLast) (rest : Text) :
    cutAtMark? mark (piece ++ mark ++ rest) = some (piece, rest) := by
  induction piece with
  | nil => exact cutAtMark?_mark mark rest
  | cons c piece ih =>
    have hmark : ¬mark <+: c :: (piece ++ mark ++ rest) := by
      intro hprefix
      have hbegin : c :: piece ++ mark.dropLast <+: c :: (piece ++ mark ++ rest) := by
        obtain ⟨last, hlast⟩ := mark.dropLast_prefix
        refine ⟨last ++ rest, ?_⟩
        nth_rewrite 2 [← hlast]
        simp
      have hlength : mark.length ≤ (c :: piece ++ mark.dropLast).length := by
        simp only [List.length_append, List.length_cons, List.length_dropLast]
        omega
      exact h (List.prefix_of_prefix_length_le hprefix hbegin hlength).isInfix
    have hpiece : ¬mark <:+: piece ++ mark.dropLast := fun hinside => h (List.infix_cons hinside)
    rw [List.cons_append, List.cons_append, cutAtMark?_cons hmark, ih hpiece]
    rfl

/-! ### All occurrences -/

lemma splitAtMark_of_not_infix (h : ¬mark <:+: t) : splitAtMark mark t = [t] := by
  unfold splitAtMark
  rw [cutAtMark?_eq_none h]

/-- **Pieces that are joined by a mark** are found again if none of them makes one. -/
theorem splitAtMark_join {pieces : List Text} (hmark : mark ≠ []) (hne : pieces ≠ [])
    (apart : ∀ piece ∈ pieces, ¬mark <:+: piece ++ mark.dropLast) :
    splitAtMark mark (join mark pieces) = pieces := by
  induction pieces with
  | nil => exact absurd rfl hne
  | cons piece pieces ih =>
    have hpiece := apart piece List.mem_cons_self
    rcases pieces with _ | ⟨next, pieces⟩
    · rw [join, List.intercalate_singleton]
      exact splitAtMark_of_not_infix fun hinside => hpiece (hinside.trans (List.infix_append [] _ _))
    · have hjoin : join mark (piece :: next :: pieces) = piece ++ mark ++ join mark (next :: pieces) :=
        List.intercalate_cons_cons
      have hcut := cutAtMark?_of_not_infix hpiece (join mark (next :: pieces))
      have hshorter : (join mark (next :: pieces)).length <
          (piece ++ mark ++ join mark (next :: pieces)).length := by
        have hlength := List.length_pos_iff.2 hmark
        simp only [List.length_append]
        omega
      rw [hjoin, splitAtMark, hcut]
      dsimp only
      rw [dif_pos hshorter, ih (List.cons_ne_nil _ _) fun p hp => apart p (List.mem_cons_of_mem _ hp)]

end Custodian.Text
