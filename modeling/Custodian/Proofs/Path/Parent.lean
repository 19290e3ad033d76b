import Custodian.Proofs.FileTree.Making

/-!
# The parent of an absolute path

The segments of an absolute path but for the last one are those of its parent (`exists_parent`). The parent is
spelled as the path begins, and no part at its end says nothing (`IsTight`). Only the root has no parent.
-/

namespace Custodian.Path

variable {path parent : Text} {parts : List Text}

/-! ### Beginnings of a path -/

lemma joinParts_singleton (part : Text) : joinParts [part] = part := by
  simp [joinParts, Text.join, List.intercalate]

lemma joinParts_cons (part next : Text) (parts : List Text) :
    joinParts (part :: next :: parts) = part ++ '/' :: joinParts (next :: parts) := by
  simp [joinParts, Text.join, List.intercalate]

lemma joinParts_append {parts more : List Text} (hparts : parts ≠ []) (hmore : more ≠ []) :
    joinParts (parts ++ more) = joinParts parts ++ '/' :: joinParts more := by
  induction parts with
  | nil => exact absurd rfl hparts
  | cons part parts ih =>
    obtain ⟨next, more, rfl⟩ := List.exists_cons_of_ne_nil hmore
    rcases parts with _ | ⟨second, parts⟩
    · rw [List.singleton_append, joinParts_cons, joinParts_singleton]
    · have hih := ih (List.cons_ne_nil _ _)
      rw [List.cons_append] at hih ⊢
      rw [List.cons_append, joinParts_cons, hih, joinParts_cons, List.append_assoc, List.cons_append]

/-- The first parts of a path are joined to what it begins with. -/
lemma joinParts_isPrefix {all : List Text} (h : parts <+: all) : joinParts parts <+: joinParts all := by
  obtain ⟨more, rfl⟩ := h
  rcases parts with _ | ⟨part, parts⟩
  · exact List.nil_prefix
  rcases more with _ | ⟨next, more⟩
  · rw [List.append_nil]
  · rw [joinParts_append (List.cons_ne_nil _ _) (List.cons_ne_nil _ _)]
    exact List.prefix_append _ _

lemma length_segments_le (path : Text) : (segments path).length ≤ path.length := by
  induction path with
  | nil => exact Nat.zero_le _
  | cons c path ih =>
    by_cases hc : c = '/'
    · rw [hc, segments_cons_slash]
      exact ih.trans (Nat.le_succ _)
    · obtain ⟨part, parts, hparts⟩ := List.exists_cons_of_ne_nil (Text.splitOn_ne_nil '/' path)
      have hsplit : Text.splitOn '/' (c :: path) = (c :: part) :: parts := by
        rw [Text.splitOn, if_neg hc, hparts]
      have hfilter : (parts.filter (!isIdle ·)).length ≤ (segments path).length := by
        rw [segments, hparts]
        exact ((List.sublist_cons_self part parts).filter _).length_le
      have hcons : (segments (c :: path)).length ≤ 1 + (parts.filter (!isIdle ·)).length := by
        rw [segments, hsplit, List.filter_cons]
        split
        · rw [List.length_cons, Nat.add_comm]
        · exact Nat.le_add_left _ _
      rw [List.length_cons]
      omega

/-! ### Parents -/

/-- The last part of an absolute path says something. -/
def IsTight (path : Text) : Prop :=
  ∃ rest init name, path = '/' :: rest ∧ Text.splitOn '/' rest = init ++ [name] ∧ isIdle name = false

/-- The parts that are left without those at the end that say nothing end with one that says something. -/
lemma dropIdleEnd_cases (parts : List Text) :
    dropIdleEnd parts = [] ∧ parts.filter (!isIdle ·) = [] ∨
      ∃ init name, dropIdleEnd parts = init ++ [name] ∧ isIdle name = false ∧
        parts.filter (!isIdle ·) = init.filter (!isIdle ·) ++ [name] := by
  have hfilter := filter_dropIdleEnd parts
  rcases List.eq_nil_or_concat (dropIdleEnd parts) with hnil | ⟨init, name, hconcat⟩
  · rw [hnil] at hfilter
    exact .inl ⟨hnil, hfilter.symm⟩
  · rw [List.concat_eq_append] at hconcat
    have hlast := List.rdropWhile_last_not isIdle parts (by
      change dropIdleEnd parts ≠ []
      simp [hconcat])
    have hbusy : isIdle name = false := by
      have hdrop : parts.rdropWhile isIdle = init ++ [name] := hconcat
      simpa [hdrop] using hlast
    rw [hconcat, List.filter_append, List.filter_cons_of_pos (by simp [hbusy]), List.filter_nil] at hfilter
    exact .inr ⟨init, name, hconcat, hbusy, hfilter.symm⟩

/-- The parts that are joined to an absolute path, if they are some of its first ones without idle ones at the
end. -/
lemma isTight_joinParts {rest : Text} (hparts : parts <+: Text.splitOn '/' rest) {init : List Text}
    {name : Text} (hconcat : parts = init ++ [name]) (busy : isIdle name = false) :
    IsTight ('/' :: joinParts parts) := by
  refine ⟨joinParts parts, init, name, rfl, ?_, busy⟩
  rw [FileTree.splitOn_joinParts hparts (by simp [hconcat]), hconcat]

/-- **The parent of an absolute path** has its segments but for the last one. -/
theorem exists_parent {names : List Text} {name : Text} (absolute : isAbsolute path = true)
    (h : segments path = names ++ [name]) :
    ∃ parent, parent? path = some parent ∧ isAbsolute parent = true ∧ segments parent = names ∧
      parent <+: path ∧ (names ≠ [] → IsTight parent) := by
  obtain ⟨rest, rfl⟩ := exists_of_isAbsolute absolute
  rw [segments_cons_slash] at h
  rcases dropIdleEnd_cases (Text.splitOn '/' rest) with ⟨-, hfilter⟩ | ⟨init, last, hdrop, -, hfilter⟩
  · rw [segments, hfilter] at h
    simp at h
  rw [segments, hfilter] at h
  obtain ⟨hnames, -⟩ := List.append_inj' h rfl
  have hparent : parent? ('/' :: rest) = some ('/' :: joinParts (dropIdleEnd init)) := by
    have hparts : (init ++ [last]).dropLast = init := List.dropLast_concat
    simp only [parent?, split, hdrop]
    split
    · next hnil => simp at hnil
    · rw [hparts]
      rfl
  have hbegins : dropIdleEnd init <+: Text.splitOn '/' rest := by
    refine (dropIdleEnd_isPrefix init).trans ?_
    refine List.IsPrefix.trans ?_ (dropIdleEnd_isPrefix _)
    rw [hdrop]
    exact List.prefix_append _ _
  have hwhole : ∀ part ∈ dropIdleEnd init, '/' ∉ part := fun part hpart =>
    Text.not_mem_of_mem_splitOn (hbegins.subset hpart)
  refine ⟨_, hparent, rfl, ?_, ?_, ?_⟩
  · rw [segments_cons_slash, segments_joinParts hwhole, filter_dropIdleEnd, hnames]
  · rw [List.cons_prefix_cons]
    refine ⟨rfl, ?_⟩
    have hjoin := joinParts_isPrefix hbegins
    rwa [joinParts, joinParts, Text.join_splitOn] at hjoin
  · intro hne
    rcases dropIdleEnd_cases init with ⟨-, hnil⟩ | ⟨before, part, hconcat, busy, -⟩
    · exact absurd (hnames.symm.trans hnil) hne
    · exact isTight_joinParts hbegins hconcat busy

end Custodian.Path
