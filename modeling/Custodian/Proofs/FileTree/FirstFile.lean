import Custodian.FileTree.Node
import Mathlib.Tactic.Common

/-!
# The first file of a directory

A directory has a first file exactly if there is a file below it, at any depth (`isSome_firstFile?`).
-/

namespace Custodian.Node

/-- Whether there is a file below a node, at any depth. -/
def holdsFile (node : Node) : Bool :=
  node.places.any (·.2.isFile)

/-- Files among some entries or below them. -/
lemma any_isFile_placesOf (es : List (Text × Node)) :
    (placesOf es).any (·.2.isFile) = (es.any (·.2.isFile) || es.any (·.2.holdsFile)) := by
  induction es with
  | nil => rfl
  | cons e es ih =>
    obtain ⟨name, node⟩ := e
    have hbelow : ∀ deeper : Place × Node → Place × Node, (∀ below, (deeper below).2 = below.2) →
        ((places node).map deeper).any (·.2.isFile) = node.holdsFile := by
      intro deeper hdeeper
      simp [List.any_map, Function.comp_def, hdeeper, holdsFile]
    rw [placesOf, List.any_append, List.any_cons, hbelow, ih, List.any_cons, List.any_cons]
    · cases node.isFile <;> cases node.holdsFile <;> simp
    · exact fun _ => rfl

mutual

/-- **There is a first file** exactly if there is a file. -/
theorem isSome_firstFile? : ∀ node : Node, node.firstFile?.isSome = node.holdsFile
  | .file _ => rfl
  | .link _ => rfl
  | .directory es => by
    rw [firstFile?, holdsFile, places, any_isFile_placesOf]
    split
    · next name file hfind =>
      have hfile : file.isFile = true := by
        simpa using List.find?_some hfind
      have hany : es.any (·.2.isFile) = true :=
        List.any_eq_true.2 ⟨(name, file), List.mem_of_find?_eq_some hfind, hfile⟩
      rw [hany]
      rfl
    · next hfind =>
      have hnone : es.any (·.2.isFile) = false := by
        rw [List.any_eq_false]
        exact List.find?_eq_none.1 hfind
      rw [hnone, Bool.false_or, isSome_firstBelow? es]

theorem isSome_firstBelow? : ∀ es : List (Text × Node),
    (firstBelow? es).isSome = es.any (·.2.holdsFile)
  | [] => rfl
  | (name, node) :: es => by
    have hnode := isSome_firstFile? node
    rw [firstBelow?, List.any_cons, ← hnode]
    cases hfirst : firstFile? node with
    | some place => simp
    | none => simpa using isSome_firstBelow? es

end

end Custodian.Node
