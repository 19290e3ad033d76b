import Custodian.Proofs.FileTree.Calls

/-!
# Trees with the same files

Two trees have the same files but for those at some places (`SameFilesBut`). Directories may be made
anywhere. A file that is put where no directory and no link is, or renamed from there to there, changes no
file at any other place, however deep it lies.
-/

namespace Custodian.FileTree

/-- Whether two trees have the same files, byte for byte, but for those at some places. -/
def SameFilesBut (places : List Place) (t t' : FileTree) : Prop :=
  ∀ place, place ∉ places → ∀ bytes,
    t'.root.get? place = some (.file bytes) ↔ t.root.get? place = some (.file bytes)

variable {t t' t'' : FileTree} {places places' : List Place} {place a b : Place} {content : Bytes}

namespace SameFilesBut

lemma refl (places : List Place) (t : FileTree) : SameFilesBut places t t :=
  fun _ _ _ => Iff.rfl

lemma trans (h : SameFilesBut places t t') (h' : SameFilesBut places t' t'') :
    SameFilesBut places t t'' :=
  fun place hplace bytes => (h' place hplace bytes).trans (h place hplace bytes)

lemma mono (h : SameFilesBut places t t') (sub : places ⊆ places') : SameFilesBut places' t t' :=
  fun place hplace => h place fun hmem => hplace (sub hmem)

end SameFilesBut

lemma Grows.sameFilesBut (h : Grows t t') (places : List Place) : SameFilesBut places t t' :=
  fun place _ bytes => h.file_iff place bytes

/-- Below a place without a directory there is nothing. -/
lemma IsFree.not_file_below {root : Node} (free : IsFree root place) {name : Text} {more : Place}
    (bytes : Bytes) : root.get? (place ++ name :: more) ≠ some (.file bytes) := by
  intro hfile
  have hdirectory := Node.kindAt?_eq_directory.2 (Node.exists_directory_of_get? hfile)
  cases free _ hdirectory

/-- A place that is not `place` lies below it or is none of the places that lead through it. -/
lemma below_or_not_prefix {other : Place} (hother : other ≠ place) :
    (∃ name more, other = place ++ name :: more) ∨ ¬place <+: other := by
  by_cases hprefix : place <+: other
  · obtain ⟨more, rfl⟩ := hprefix
    cases more with
    | nil => exact absurd (List.append_nil place) hother
    | cons name more => exact .inl ⟨name, more, rfl⟩
  · exact .inr hprefix

/-- **Putting a file** in a free place changes no other file. -/
theorem IsFree.sameFilesBut_put (free : IsFree t.root place)
    (hput : t.put place (.file content) = .ok t') : SameFilesBut [place] t t' := by
  have hput' := (put_eq_ok_iff.1 hput).1
  have hfile : t'.root.get? place = some (.file content) := by
    simpa using Node.get?_of_put? hput' []
  intro other hother bytes
  rcases below_or_not_prefix (by simpa using hother) with ⟨name, more, rfl⟩ | hprefix
  · exact iff_of_false ((isFree_of_file hfile).not_file_below bytes) (free.not_file_below bytes)
  · rw [← Node.kindAt?_eq_file, ← Node.kindAt?_eq_file, Node.kindAt?_of_put? hput' hprefix]

/-- **Renaming a file** to a free place changes no other file. -/
theorem sameFilesBut_of_renamed (hne : a ≠ []) (hfile : t.root.get? a = some (.file content))
    (free : IsFree t.root b)
    (hput : FileTree.put { t with root := t.root.erase a } b (.file content) = .ok t') :
    SameFilesBut [a, b] t t' := by
  have hput' := (put_eq_ok_iff.1 hput).1
  have htarget : t'.root.get? b = some (.file content) := by
    simpa using Node.get?_of_put? hput' []
  intro other hother bytes
  simp only [List.mem_cons, List.not_mem_nil, or_false, not_or] at hother
  rcases below_or_not_prefix hother.2 with ⟨name, more, rfl⟩ | hb
  · exact iff_of_false ((isFree_of_file htarget).not_file_below bytes) (free.not_file_below bytes)
  rcases below_or_not_prefix hother.1 with ⟨name, more, rfl⟩ | ha
  · -- what was taken away was a file, and nothing was below it
    refine iff_of_false ?_ ((isFree_of_file hfile).not_file_below bytes)
    rw [← Node.kindAt?_eq_file, Node.kindAt?_of_put? hput' hb,
      kindAt?_erase_below hne (List.prefix_append _ _)]
    simp
  · rw [← Node.kindAt?_eq_file, ← Node.kindAt?_eq_file, kindAt?_of_renamed hput ha hb]

end Custodian.FileTree
