import Custodian.Proofs.FileTree.Calls
import Custodian.Proofs.FileTree.Name

/-!
# Trees in order

In a tree in order, every directory has its entries in the ascending order of their names and each name
once. Every change keeps a tree in order, so all trees that are made by changes from the empty one are.
-/

namespace Custodian

namespace Node

mutual

/-- Whether every directory in a tree has its entries in the ascending order of their names, each name
once. -/
def IsOrdered : Node → Prop
  | .directory es => Table.IsAscending es ∧ AreOrdered es
  | _ => True

/-- Whether the nodes of some entries are trees in order. -/
def AreOrdered : List (Text × Node) → Prop
  | [] => True
  | (_, node) :: es => IsOrdered node ∧ AreOrdered es

end

variable {root : Node} {es : List (Text × Node)} {place : Place}

lemma areOrdered_iff : AreOrdered es ↔ ∀ e ∈ es, e.2.IsOrdered := by
  induction es with
  | nil => simp [AreOrdered]
  | cons e es ih =>
    obtain ⟨name, node⟩ := e
    rw [AreOrdered, List.forall_mem_cons, ih]

lemma isOrdered_empty : IsOrdered .empty :=
  ⟨Table.isAscending_nil, trivial⟩

lemma isOrdered_file (content : Bytes) : IsOrdered (.file content) := trivial

/-- What stands in a tree in order is in order itself. -/
lemma IsOrdered.get? (h : root.IsOrdered) {node : Node} (hnode : root.get? place = some node) :
    node.IsOrdered := by
  induction place generalizing root with
  | nil =>
    rw [get?_nil] at hnode
    exact Option.some.inj hnode ▸ h
  | cons name place ih =>
    cases root with
    | file content => cases hnode
    | link target => cases hnode
    | directory es =>
      rw [get?_cons] at hnode
      obtain ⟨child, hchild, hnode⟩ := Option.bind_eq_some_iff.1 hnode
      exact ih (areOrdered_iff.1 h.2 _ (Table.mem_of_get? hchild)) hnode

/-- A directory in order stays so if a name gets a tree in order. -/
lemma IsOrdered.insert (h : IsOrdered (.directory es)) (name : Text) {child : Node} (hchild : child.IsOrdered) :
    IsOrdered (.directory (Table.insert name child es)) := by
  refine ⟨h.1.insert name child, areOrdered_iff.2 ?_⟩
  intro e he
  rcases Table.mem_insert he with rfl | he
  · exact hchild
  · exact areOrdered_iff.1 h.2 e he

lemma IsOrdered.put? (h : root.IsOrdered) {new root' : Node} (hnew : new.IsOrdered)
    (hput : Node.put? new place root = some root') : root'.IsOrdered := by
  induction place generalizing root root' with
  | nil =>
    cases hput
    exact hnew
  | cons name place ih =>
    cases root with
    | file content => cases hput
    | link target => cases hput
    | directory es =>
      cases place with
      | nil =>
        cases hput
        exact h.insert name hnew
      | cons next place =>
        rw [Node.put?] at hput
        split at hput
        · cases hput
        · next old hold =>
          obtain ⟨child, hchild, rfl⟩ := Option.map_eq_some_iff.1 hput
          have hold : old.IsOrdered := areOrdered_iff.1 h.2 _ (Table.mem_of_get? hold)
          exact h.insert name (ih hold hchild)

lemma IsOrdered.erase (h : root.IsOrdered) (place : Place) : (root.erase place).IsOrdered := by
  induction place generalizing root with
  | nil => exact h
  | cons name place ih =>
    cases root with
    | file content => exact h
    | link target => exact h
    | directory es =>
      cases place with
      | nil =>
        refine ⟨h.1.filter _, areOrdered_iff.2 ?_⟩
        intro e he
        exact areOrdered_iff.1 h.2 e (List.mem_of_mem_filter he)
      | cons next place =>
        rw [Node.erase]
        split
        · exact h
        · next old hold => exact h.insert name (ih (areOrdered_iff.1 h.2 _ (Table.mem_of_get? hold)))

end Node

namespace FileTree

variable {t t' : FileTree} {path : Text}

lemma isOrdered_put (h : t.root.IsOrdered) {place : Place} {node : Node} (hnode : node.IsOrdered)
    (hput : t.put place node = .ok t') : t'.root.IsOrdered :=
  h.put? hnode (put_eq_ok_iff.1 hput).1

lemma isOrdered_makeDirectory (h : t.root.IsOrdered) (hmade : t.makeDirectory path = .ok t') :
    t'.root.IsOrdered := by
  unfold makeDirectory at hmade
  split at hmade
  · cases hmade
  · cases hmade
  · split at hmade
    · cases hmade
    · exact isOrdered_put h Node.isOrdered_empty hmade

lemma isOrdered_writeFile (h : t.root.IsOrdered) {content : Bytes} (hwritten : t.writeFile path content = .ok t') :
    t'.root.IsOrdered := by
  obtain ⟨place, hput, -⟩ := writeFile_cases hwritten
  exact isOrdered_put h (Node.isOrdered_file content) hput

lemma isOrdered_rename (h : t.root.IsOrdered) {source target : Text} (hrenamed : t.rename source target = .ok t') :
    t'.root.IsOrdered := by
  obtain ⟨a, b, node, -, -, hnode, ⟨-, rfl⟩ | ⟨-, hput⟩⟩ := rename_cases hrenamed
  · exact h
  · exact isOrdered_put (h.erase a.place) (h.get? hnode) hput

/-- The directory that a path names stands in the tree. -/
lemma exists_place_of_directory {node : Node} (h : t.directory path = .ok node) :
    ∃ place es, t.root.get? place = some node ∧ node = .directory es := by
  unfold directory at h
  rcases hresolve : t.resolve path with fault | _ | _ <;> rw [hresolve] at h
  · cases h
  · next place found =>
    cases found with
    | file content => cases h
    | link target => cases h
    | directory es =>
      cases h
      rw [resolve_eq (checkPath_of_resolve hresolve)] at hresolve
      exact ⟨place, es, (exists_walks hresolve).2, rfl⟩
  · cases h

end FileTree

end Custodian
