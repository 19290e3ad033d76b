import Custodian.Text.Basic
import Mathlib.Data.List.DropRight
import Mathlib.Tactic.Common

/-!
# Pieces of a text

A text that is split at a separator splits the same on either side of it (`splitOn_append`), and no piece
contains one (`not_mem_of_mem_splitOn`). So it is cut at the last separator where none follows
(`cutLast?_append`). Lines that are ended one by one are read back (`lines_ended`, `lines_flatMap`).
-/

namespace Custodian.Text

lemma splitOn_append (sep : Char) (a b : Text) :
    splitOn sep (a ++ sep :: b) = splitOn sep a ++ splitOn sep b := by
  induction a with
  | nil => simp [splitOn]
  | cons c a ih =>
    by_cases hc : c = sep
    · simp [splitOn, hc, ih]
    · cases hs : splitOn sep a with
      | nil => exact absurd hs (splitOn_ne_nil sep a)
      | cons piece pieces => simp [splitOn, hc, ih, hs]

lemma splitOn_of_not_mem {sep : Char} {t : Text} (h : sep ∉ t) : splitOn sep t = [t] := by
  induction t with
  | nil => rfl
  | cons c t ih =>
    have hc : c ≠ sep := by
      rintro rfl
      exact h List.mem_cons_self
    have ht : sep ∉ t := by
      intro ht
      exact h (List.mem_cons_of_mem _ ht)
    simp [splitOn, hc, ih ht]

lemma not_mem_of_mem_splitOn {sep : Char} {t piece : Text} (h : piece ∈ splitOn sep t) :
    sep ∉ piece := by
  induction t generalizing piece with
  | nil =>
    rw [splitOn, List.mem_singleton] at h
    rw [h]
    exact List.not_mem_nil
  | cons c t ih =>
    by_cases hc : c = sep
    · rw [splitOn, if_pos hc] at h
      rcases List.mem_cons.1 h with rfl | h
      · exact List.not_mem_nil
      · exact ih h
    · obtain ⟨first, rest, hs⟩ := List.exists_cons_of_ne_nil (splitOn_ne_nil sep t)
      rw [splitOn, if_neg hc, hs] at h
      rw [hs] at ih
      rcases List.mem_cons.1 h with rfl | h
      · have hfirst : sep ∉ first := ih List.mem_cons_self
        simp [Ne.symm hc, hfirst]
      · exact ih (List.mem_cons_of_mem _ h)

/-- Pieces that are joined are split again. -/
lemma splitOn_join {sep : Char} {pieces : List Text} (hne : pieces ≠ [])
    (whole : ∀ piece ∈ pieces, sep ∉ piece) : splitOn sep (join [sep] pieces) = pieces := by
  induction pieces with
  | nil => exact absurd rfl hne
  | cons piece pieces ih =>
    have hpiece := splitOn_of_not_mem (whole piece List.mem_cons_self)
    cases pieces with
    | nil => simpa [join, List.intercalate] using hpiece
    | cons next pieces =>
      have hjoin : join [sep] (piece :: next :: pieces) = piece ++ sep :: join [sep] (next :: pieces) := by
        simp [join, List.intercalate]
      rw [hjoin, splitOn_append, hpiece,
        ih (List.cons_ne_nil _ _) fun p hp => whole p (List.mem_cons_of_mem _ hp)]
      rfl

/-- The last piece stands at the end. -/
lemma join_concat (sep : Text) (pieces : List Text) (piece : Text) :
    join sep (pieces ++ [piece]) = join sep (pieces ++ [[]]) ++ piece := by
  induction pieces with
  | nil => simp [join, List.intercalate]
  | cons first pieces ih =>
    cases pieces with
    | nil => simp [join, List.intercalate]
    | cons next pieces => simpa [join, List.intercalate] using ih

/-! ### The last separator -/

lemma cutLast?_of_not_mem {sep : Char} {t : Text} (h : sep ∉ t) : cutLast? sep t = none := by
  rw [cutLast?, splitOn_of_not_mem h]

/-- A text is cut at the separator behind which there is none. -/
lemma cutLast?_append {sep : Char} (a : Text) {b : Text} (h : sep ∉ b) :
    cutLast? sep (a ++ sep :: b) = some (a, b) := by
  obtain ⟨piece, pieces, hpieces⟩ := List.exists_cons_of_ne_nil (splitOn_ne_nil sep a)
  have hsplit : splitOn sep (a ++ sep :: b) = splitOn sep a ++ [b] := by
    rw [splitOn_append, splitOn_of_not_mem h]
  unfold cutLast?
  split
  · next hnil => exact absurd hnil (splitOn_ne_nil _ _)
  · next hsingle => simp [hsplit, hpieces] at hsingle
  · rw [hsplit, List.dropLast_concat, join_splitOn, List.getLastD_concat]

/-- Where there is a separator, there is a last one. -/
lemma exists_eq_append_of_mem {sep : Char} {t : Text} (h : sep ∈ t) :
    ∃ a b, t = a ++ sep :: b ∧ sep ∉ b := by
  obtain ⟨after, before, hreverse, hafter⟩ := List.eq_append_cons_of_mem (List.mem_reverse.2 h)
  refine ⟨before.reverse, after.reverse, ?_, ?_⟩
  · have ht := congrArg List.reverse hreverse
    simpa using ht
  · rwa [List.mem_reverse]

/-! ### Trimming -/

/-- What is left of a text without the occurrences of a character at its end. -/
lemma exists_trimEnd (c : Char) (t : Text) :
    ∃ tail, t = trimEnd (· == c) t ++ tail ∧ (∀ ch ∈ tail, ch = c) ∧
      (trimEnd (· == c) t).getLast? ≠ some c := by
  have htrim : trimEnd (· == c) t = t.rdropWhile (· == c) := rfl
  rw [htrim]
  refine ⟨t.rtakeWhile (· == c), List.rdropWhile_append_rtakeWhile.symm, ?_, ?_⟩
  · intro ch hch
    simpa using List.mem_rtakeWhile_imp hch
  · intro hlast
    have hne : t.rdropWhile (· == c) ≠ [] := by
      intro hnil
      rw [hnil] at hlast
      cases hlast
    rw [List.getLast?_eq_some_getLast hne, Option.some.injEq] at hlast
    have hkept := List.rdropWhile_last_not (· == c) t hne
    rw [hlast] at hkept
    exact hkept (beq_self_eq_true c)

/-! ### Lines -/

lemma dropReturn_of_getLast? {t : Text} (h : t.getLast? ≠ some '\r') : dropReturn t = t := by
  rw [dropReturn, if_neg h]

lemma splitOn_flatMap {ts : List Text} (unbroken : ∀ t ∈ ts, '\n' ∉ t) :
    splitOn '\n' (ts.flatMap (· ++ ['\n'])) = ts ++ [[]] := by
  induction ts with
  | nil => rfl
  | cons t ts ih =>
    have ht : '\n' ∉ t := unbroken t List.mem_cons_self
    have hts := ih fun u hu => unbroken u (List.mem_cons_of_mem t hu)
    rw [List.flatMap_cons, List.append_assoc, List.singleton_append, splitOn_append, hts,
      splitOn_of_not_mem ht]
    rfl

/-- Lines that are ended by a line feed each are read back, but for one carriage return at the end of each. -/
lemma lines_ended {ts : List Text} (unbroken : ∀ t ∈ ts, '\n' ∉ t) :
    lines (ts.flatMap (· ++ ['\n'])) = ts.map dropReturn := by
  unfold lines
  rw [splitOn_flatMap unbroken]
  dsimp only
  rw [List.dropLast_concat]
  simp

/-- Lines that are ended by a line feed each are read back, unless they end in a carriage return. -/
theorem lines_flatMap {ts : List Text} (unbroken : ∀ t ∈ ts, '\n' ∉ t)
    (unreturned : ∀ t ∈ ts, t.getLast? ≠ some '\r') : lines (ts.flatMap (· ++ ['\n'])) = ts := by
  rw [lines_ended unbroken]
  exact (List.map_congr_left fun t ht => dropReturn_of_getLast? (unreturned t ht)).trans (List.map_id ts)

/-- No line contains a line feed. -/
lemma not_mem_of_mem_lines {t line : Text} (h : line ∈ lines t) : '\n' ∉ line := by
  have hpieces : ∀ piece ∈ splitOn '\n' t, '\n' ∉ piece := fun _ => not_mem_of_mem_splitOn
  unfold lines at h
  dsimp only at h
  rcases List.mem_append.1 h with hended | hunended
  · obtain ⟨piece, hpiece, rfl⟩ := List.mem_map.1 hended
    have hwhole := hpieces piece (List.dropLast_subset _ hpiece)
    unfold dropReturn
    split
    · exact fun hmem => hwhole (List.dropLast_subset _ hmem)
    · exact hwhole
  · split at hunended
    · cases hunended
    · obtain rfl := List.mem_singleton.1 hunended
      apply hpieces
      rw [List.getLastD_eq_getLast?, List.getLast?_eq_some_getLast (splitOn_ne_nil _ _)]
      exact List.getLast_mem _

end Custodian.Text
