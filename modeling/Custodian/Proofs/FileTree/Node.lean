import Custodian.FileTree.Node
import Custodian.Proofs.Table

/-!
# What a change to a tree changes

Putting a node at a place, or taking away what is there, changes nothing at the other places but what the
directories on the way hold. So the changes are described by the kinds of the nodes: what a directory
holds does not belong to its kind.
-/

namespace Custodian.Node

/-- What kind of node it is: what a directory holds is left out. -/
def kind : Node → Node
  | .directory _ => .empty
  | node => node

@[simp]
lemma kind_directory (es : List (Text × Node)) : (Node.directory es).kind = .empty := rfl

@[simp]
lemma kind_file (content : Bytes) : (Node.file content).kind = .file content := rfl

@[simp]
lemma kind_link (target : Text) : (Node.link target).kind = .link target := rfl

/-- The kind of the node at a place. -/
def kindAt? (place : Place) (root : Node) : Option Node :=
  (root.get? place).map kind

lemma kindAt?_eq_file {place : Place} {root : Node} {content : Bytes} :
    root.kindAt? place = some (.file content) ↔ root.get? place = some (.file content) := by
  unfold kindAt?
  rcases root.get? place with _ | (_ | _ | _) <;> simp [empty]

lemma kindAt?_eq_link {place : Place} {root : Node} {target : Text} :
    root.kindAt? place = some (.link target) ↔ root.get? place = some (.link target) := by
  unfold kindAt?
  rcases root.get? place with _ | (_ | _ | _) <;> simp [empty]

lemma kindAt?_eq_directory {place : Place} {root : Node} :
    root.kindAt? place = some .empty ↔ ∃ es, root.get? place = some (.directory es) := by
  unfold kindAt?
  rcases root.get? place with _ | (_ | _ | _) <;> simp [empty]

lemma kindAt?_eq_none {place : Place} {root : Node} :
    root.kindAt? place = none ↔ root.get? place = none := by
  simp [kindAt?]

/-! ### Looking -/

@[simp]
lemma get?_nil (root : Node) : root.get? [] = some root := by
  cases root <;> rfl

lemma get?_cons (name : Text) (place : Place) (es : List (Text × Node)) :
    (Node.directory es).get? (name :: place) = (Table.get? name es).bind (get? place ·) := by
  rw [get?]
  cases Table.get? name es <;> rfl

lemma get?_append (root : Node) (place more : Place) :
    root.get? (place ++ more) = (root.get? place).bind (get? more ·) := by
  induction place generalizing root with
  | nil => simp
  | cons name place ih =>
    cases root with
    | file content => rfl
    | link target => rfl
    | directory es =>
      rw [List.cons_append, get?_cons, get?_cons, Option.bind_assoc]
      exact congrArg _ (funext fun child => ih child)

/-- What is below something is below a directory. -/
lemma exists_directory_of_get? {root node : Node} {place : Place} {name : Text} {more : Place}
    (h : root.get? (place ++ name :: more) = some node) : ∃ es, root.get? place = some (.directory es) := by
  rw [get?_append] at h
  obtain ⟨n, hn, h⟩ := Option.bind_eq_some_iff.1 h
  cases n with
  | file content => cases h
  | link target => cases h
  | directory es => exact ⟨es, hn⟩

/-- In a directory that holds nothing but files there is no link. -/
lemma not_link_of_files {root : Node} {place : Place} {files : List (Text × Bytes)}
    (h : root.get? place = some (.directory (files.map fun (name, content) => (name, .file content))))
    (name target : Text) : root.get? (place ++ [name]) ≠ some (.link target) := by
  intro hlink
  rw [get?_append, h, Option.bind_some, get?_cons] at hlink
  obtain ⟨node, hnode, hlink⟩ := Option.bind_eq_some_iff.1 hlink
  obtain ⟨⟨other, content⟩, -, heq⟩ := List.mem_map.1 (Table.mem_of_get? hnode)
  cases heq
  cases hlink

lemma kindAt?_cons (name : Text) (place : Place) (es : List (Text × Node)) :
    (Node.directory es).kindAt? (name :: place) = (Table.get? name es).bind (kindAt? place ·) := by
  rw [kindAt?, get?_cons, Option.map_bind]
  rfl

/-- If one entry of a directory changes, and it is of the same kinds as before, then so is the
directory. -/
lemma kindAt?_insert {name : Text} {child : Node} {es : List (Text × Node)} {other : Place}
    (h : ∀ more, other = name :: more →
      child.kindAt? more = (Table.get? name es).bind (kindAt? more ·)) :
    (Node.directory (Table.insert name child es)).kindAt? other = (Node.directory es).kindAt? other := by
  cases other with
  | nil => simp [kindAt?]
  | cons n more =>
    rw [kindAt?_cons, kindAt?_cons]
    by_cases hn : n = name
    · subst hn
      rw [Table.get?_insert_self]
      exact h more rfl
    · rw [Table.get?_insert_of_ne hn]

/-! ### Putting -/

section Put

variable {new root root' : Node} {place : Place}

/-- At the place and below it stands what was put there. -/
lemma get?_of_put? (h : put? new place root = some root') (more : Place) :
    root'.get? (place ++ more) = new.get? more := by
  induction place generalizing root root' with
  | nil =>
    cases h
    rfl
  | cons name place ih =>
    cases root with
    | file content => cases h
    | link target => cases h
    | directory es =>
      cases place with
      | nil =>
        cases h
        simp [get?_cons]
      | cons next place =>
        rw [put?] at h
        split at h
        · cases h
        · obtain ⟨child, hchild, rfl⟩ := Option.map_eq_some_iff.1 h
          rw [List.cons_append, get?_cons, Table.get?_insert_self]
          exact ih hchild

lemma kindAt?_of_put? (h : put? new place root = some root') {other : Place} (hother : ¬place <+: other) :
    root'.kindAt? other = root.kindAt? other := by
  induction place generalizing root root' other with
  | nil => exact absurd (List.nil_prefix) hother
  | cons name place ih =>
    cases root with
    | file content => cases h
    | link target => cases h
    | directory es =>
      cases place with
      | nil =>
        cases h
        apply kindAt?_insert
        intro more hmore
        exact absurd (hmore ▸ List.prefix_append [name] more) hother
      | cons next place =>
        rw [put?] at h
        split at h
        · cases h
        · next old hold =>
          obtain ⟨child, hchild, rfl⟩ := Option.map_eq_some_iff.1 h
          apply kindAt?_insert
          intro more hmore
          rw [hold, Option.bind_some]
          apply ih hchild
          intro hprefix
          exact hother (hmore ▸ (List.prefix_cons_inj name).2 hprefix)

end Put

/-! ### Taking away -/

section Erase

variable {root : Node} {place : Place}

lemma get?_erase_self (hplace : place ≠ []) (more : Place) :
    (root.erase place).get? (place ++ more) = none := by
  induction place generalizing root with
  | nil => exact absurd rfl hplace
  | cons name place ih =>
    cases root with
    | file content => rfl
    | link target => rfl
    | directory es =>
      cases place with
      | nil => simp [erase, get?_cons, Table.get?_erase]
      | cons next place =>
        rw [erase]
        split
        · next hnone => rw [List.cons_append, get?_cons, hnone, Option.bind_none]
        · rw [List.cons_append, get?_cons, Table.get?_insert_self]
          exact ih (List.cons_ne_nil _ _)

lemma kindAt?_erase {other : Place} (hother : ¬place <+: other) :
    (root.erase place).kindAt? other = root.kindAt? other := by
  induction place generalizing root other with
  | nil => exact absurd List.nil_prefix hother
  | cons name place ih =>
    cases root with
    | file content => rfl
    | link target => rfl
    | directory es =>
      cases place with
      | nil =>
        cases other with
        | nil => rfl
        | cons n more =>
          have hn : n ≠ name := by
            rintro rfl
            exact hother (List.prefix_append [n] more)
          simp [erase, kindAt?_cons, Table.get?_erase, hn]
      | cons next place =>
        rw [erase]
        split
        · rfl
        · next old hold =>
          apply kindAt?_insert
          intro more hmore
          rw [hold, Option.bind_some]
          apply ih
          intro hprefix
          exact hother (hmore ▸ (List.prefix_cons_inj name).2 hprefix)

end Erase

end Custodian.Node
