import Custodian.FileTree.Resolve
import Custodian.Proofs.FileTree.Node
import Mathlib.Logic.Relation

/-!
# Walks to directories

A path is followed part by part. `Walk` says what one part does. Every walk ends (`exists_halts`), and what
is found is what stands where it ends; a directory is found where the parts lead one after the other
(`exists_walks`). A walk goes on in the same way whatever parts follow, and it only looks at directories and
links: a tree that has all of those leads it to the same place.
-/

namespace Custodian.FileTree

open Relation

/-- A walk on its way: how many links may still be followed, the directory it has reached, and the parts
that are left. -/
structure Walker where
  links : Nat
  here : Place
  left : List Text

/-- What follows one part. -/
inductive Walk (root : Node) : Walker → Walker → Prop
  /-- An idle part leads nowhere else. -/
  | idle {links : Nat} {here : Place} {part : Text} {left : List Text}
      (idle : Path.isIdle part = true) : Walk root ⟨links + 1, here, part :: left⟩ ⟨links + 1, here, left⟩
  /-- Two dots lead up. -/
  | up {links : Nat} {here : Place} {left : List Text} :
      Walk root ⟨links + 1, here, ['.', '.'] :: left⟩ ⟨links + 1, here.dropLast, left⟩
  /-- The name of a directory leads down. -/
  | down {links : Nat} {here : Place} {part : Text} {left : List Text}
      (busy : Path.isIdle part = false) (named : part ≠ ['.', '.'])
      (short : Utf8.size part ≤ longestName) (directory : root.kindAt? (here ++ [part]) = some .empty) :
      Walk root ⟨links + 1, here, part :: left⟩ ⟨links + 1, here ++ [part], left⟩
  /-- A link leads where its target leads. -/
  | through {links : Nat} {here : Place} {part target : Text} {left : List Text}
      (busy : Path.isIdle part = false) (named : part ≠ ['.', '.'])
      (short : Utf8.size part ≤ longestName)
      (link : root.kindAt? (here ++ [part]) = some (.link target)) :
      Walk root ⟨links + 1, here, part :: left⟩
        ⟨links, (origin here target).1, (origin here target).2 ++ left⟩

/-- Some parts lead from a directory to another one. -/
abbrev Walks (root : Node) : Walker → Walker → Prop :=
  ReflTransGen (Walk root)

variable {root root' : Node} {a b : Walker}

/-! ### Walks and what is found -/

/-- What is found from where a walker stands. -/
def Walker.found (root : Node) (a : Walker) : Except Fault Target :=
  walkThrough root true a.links a.here a.left

lemma Walk.found_eq (h : Walk root a b) : a.found root = b.found root := by
  cases h with
  | idle idle => simp [Walker.found, walkThrough, walk, idle]
  | up => simp [Walker.found, walkThrough, walk, Path.isIdle]
  | down busy named short directory =>
    obtain ⟨es, hes⟩ := Node.kindAt?_eq_directory.1 directory
    simp [Walker.found, walkThrough, walk, busy, named, Nat.not_lt.2 short, hes]
  | through busy named short link =>
    have hlink := Node.kindAt?_eq_link.1 link
    simp [Walker.found, walkThrough, walk, busy, named, Nat.not_lt.2 short, hlink]

lemma Walks.found_eq (h : Walks root a b) : a.found root = b.found root := by
  induction h with
  | refl => rfl
  | tail _ step ih => exact ih.trans step.found_eq

/-- What is found where a part is neither idle nor leads up. -/
lemma found_of_busy {links : Nat} {here : Place} {part : Text} {left : List Text}
    (busy : Path.isIdle part = false) (named : part ≠ ['.', '.']) (short : Utf8.size part ≤ longestName) :
    Walker.found root ⟨links + 1, here, part :: left⟩ =
      match root.get? (here ++ [part]) with
      | none =>
        if left.all (·.isEmpty) then .ok (.absent (here ++ [part]) (!left.isEmpty)) else .error .missing
      | some (.directory _) => Walker.found root ⟨links + 1, here ++ [part], left⟩
      | some (.file content) =>
        if left.isEmpty then .ok (.found (here ++ [part]) (.file content)) else .error .notDirectory
      | some (.link target) =>
        Walker.found root ⟨links, (origin here target).1, (origin here target).2 ++ left⟩ := by
  rw [Walker.found, walkThrough, walk, if_neg (by simp [busy]), if_neg named,
    if_neg (Nat.not_lt.2 short)]
  rcases root.get? (here ++ [part]) with _ | (content | target | es)
  · rfl
  · rfl
  · dsimp only
    rw [if_neg (by simp)]
    rfl
  · rfl

lemma found_of_long {links : Nat} {here : Place} {part : Text} {left : List Text}
    (busy : Path.isIdle part = false) (named : part ≠ ['.', '.']) (long : longestName < Utf8.size part) :
    Walker.found root ⟨links + 1, here, part :: left⟩ = .error .nameTooLong := by
  rw [Walker.found, walkThrough, walk, if_neg (by simp [busy]), if_neg named, if_pos long]

/-! ### Where a walk ends -/

/-- A walker who gets no further. -/
def Halts (root : Node) (a : Walker) : Prop :=
  ∀ b, ¬Walk root a b

/-- **Every walk ends**: the parts run out, and so do the links. -/
theorem exists_halts (root : Node) (a : Walker) : ∃ b, Walks root a b ∧ Halts root b := by
  obtain ⟨links, here, parts⟩ := a
  induction links generalizing here parts with
  | zero => exact ⟨_, .refl, nofun⟩
  | succ links follow =>
    -- The parts that are left, as long as no link is followed.
    induction parts generalizing here with
    | nil => exact ⟨_, .refl, nofun⟩
    | cons part parts ih =>
      by_cases hstep : ∃ b, Walk root ⟨links + 1, here, part :: parts⟩ b
      · obtain ⟨b, step⟩ := hstep
        have hon : ∃ c, Walks root b c ∧ Halts root c := by
          cases step with
          | idle => exact ih _
          | up => exact ih _
          | down => exact ih _
          | through => exact follow _ _
        obtain ⟨c, walks, halts⟩ := hon
        exact ⟨c, .head step walks, halts⟩
      · exact ⟨_, .refl, fun b step => hstep ⟨b, step⟩⟩

/-- A walker stands before a name that leads nowhere: it is too long, there is nothing, or a file. -/
structure Blocked (root : Node) (here : Place) (name : Text) : Prop where
  busy : Path.isIdle name = false
  named : name ≠ ['.', '.']
  cause : longestName < Utf8.size name ∨ Utf8.size name ≤ longestName ∧
    (root.get? (here ++ [name]) = none ∨ ∃ content, root.get? (here ++ [name]) = some (.file content))

/-- A walker gets no further without links, or without parts, or before a name that leads nowhere. -/
lemma Halts.cases {links : Nat} {here : Place} {left : List Text} (h : Halts root ⟨links, here, left⟩) :
    links = 0 ∨ left = [] ∨ ∃ name more, left = name :: more ∧ Blocked root here name := by
  rcases links with _ | links
  · exact .inl rfl
  rcases left with _ | ⟨name, more⟩
  · exact .inr (.inl rfl)
  have busy : Path.isIdle name = false := by
    rw [Bool.eq_false_iff]
    exact fun idle => h _ (.idle idle)
  have named : name ≠ ['.', '.'] := by
    rintro rfl
    exact h _ .up
  refine .inr (.inr ⟨name, more, rfl, busy, named, ?_⟩)
  by_cases hshort : Utf8.size name ≤ longestName
  · refine .inr ⟨hshort, ?_⟩
    rcases hnode : root.get? (here ++ [name]) with _ | (content | target | es)
    · exact .inl rfl
    · exact .inr ⟨content, rfl⟩
    · exact absurd (.through busy named hshort (Node.kindAt?_eq_link.2 hnode)) (h _)
    · exact absurd (.down busy named hshort (Node.kindAt?_eq_directory.2 ⟨es, hnode⟩)) (h _)
  · exact .inl (Nat.not_le.1 hshort)

/-- What is found before a name that leads nowhere. -/
lemma Blocked.found_cases {links : Nat} {here : Place} {name : Text} (h : Blocked root here name)
    (left : List Text) :
    (∃ fault, Walker.found root ⟨links + 1, here, name :: left⟩ = .error fault) ∨
      (root.get? (here ++ [name]) = none ∧ left.all (·.isEmpty) = true ∧ Utf8.size name ≤ longestName ∧
        Walker.found root ⟨links + 1, here, name :: left⟩ = .ok (.absent (here ++ [name]) (!left.isEmpty))) ∨
      ∃ content, root.get? (here ++ [name]) = some (.file content) ∧ left = [] ∧
        Walker.found root ⟨links + 1, here, name :: left⟩ = .ok (.found (here ++ [name]) (.file content)) := by
  rcases h.cause with long | ⟨short, hnone | ⟨content, hfile⟩⟩
  · exact .inl ⟨.nameTooLong, found_of_long h.busy h.named long⟩
  all_goals rw [found_of_busy h.busy h.named short]
  · rw [hnone]
    by_cases hall : left.all (·.isEmpty) = true
    · exact .inr (.inl ⟨rfl, hall, short, if_pos hall⟩)
    · exact .inl ⟨.missing, if_neg hall⟩
  · rw [hfile]
    by_cases hend : left.isEmpty = true
    · exact .inr (.inr ⟨content, rfl, List.isEmpty_iff.1 hend, if_pos hend⟩)
    · exact .inl ⟨.notDirectory, if_neg hend⟩

/-- **What is found is there**, and a directory that is found is reached by a walk. -/
theorem exists_walks_of_found {links : Nat} {here place : Place} {parts : List Text} {node : Node}
    (h : walkThrough root true links here parts = .ok (.found place node)) :
    root.get? place = some node ∧
      (node.isFile = false → ∃ left, Walks root ⟨links, here, parts⟩ ⟨left + 1, place, []⟩) := by
  obtain ⟨⟨rest, there, left⟩, walks, halts⟩ := exists_halts root ⟨links, here, parts⟩
  have hfound := walks.found_eq.symm.trans h
  rcases rest with _ | rest
  · cases hfound
  rcases halts.cases with hzero | rfl | ⟨name, more, rfl, blocked⟩
  · cases hzero
  · rw [Walker.found, walkThrough, walk] at hfound
    split at hfound
    · next hnode =>
      cases hfound
      exact ⟨hnode, fun _ => ⟨rest, walks⟩⟩
    · cases hfound
  · rcases blocked.found_cases more with ⟨fault, hb⟩ | ⟨-, -, -, hb⟩ | ⟨content, hfile, -, hb⟩ <;>
      rw [hb] at hfound <;> cases hfound
    exact ⟨hfile, nofun⟩

/-- **A directory that is found is reached** by a walk. -/
theorem exists_walks {links : Nat} {here place : Place} {parts : List Text} {es : List (Text × Node)}
    (h : walkThrough root true links here parts = .ok (.found place (.directory es))) :
    (∃ left, Walks root ⟨links, here, parts⟩ ⟨left + 1, place, []⟩) ∧
      root.get? place = some (.directory es) := by
  obtain ⟨hplace, hwalks⟩ := exists_walks_of_found h
  exact ⟨hwalks rfl, hplace⟩

/-! ### Parts that follow -/

lemma Walk.append (h : Walk root a b) (more : List Text) :
    Walk root { a with left := a.left ++ more } { b with left := b.left ++ more } := by
  cases h with
  | idle idle => exact .idle idle
  | up => exact .up
  | down busy named short directory => exact .down busy named short directory
  | through busy named short link =>
    rw [List.append_assoc]
    exact .through busy named short link

/-- A walk goes on in the same way whatever parts follow. -/
lemma Walks.append (h : Walks root a b) (more : List Text) :
    Walks root { a with left := a.left ++ more } { b with left := b.left ++ more } :=
  h.lift (fun a => { a with left := a.left ++ more }) fun _ _ step => step.append more

/-- A walk over some parts is a walk over the first ones, and then one over the others. -/
lemma Walks.cut {links links' : Nat} {here place : Place} {first more : List Text}
    (h : Walks root ⟨links, here, first ++ more⟩ ⟨links', place, []⟩) :
    ∃ between middle, Walks root ⟨links, here, first⟩ ⟨between, middle, []⟩ ∧
      Walks root ⟨between, middle, more⟩ ⟨links', place, []⟩ := by
  generalize ha : (⟨links, here, first ++ more⟩ : Walker) = a at h
  induction h using ReflTransGen.head_induction_on generalizing links here first with
  | refl =>
    obtain ⟨rfl, rfl, hnil⟩ := Walker.mk.inj ha
    obtain ⟨rfl, rfl⟩ := List.append_eq_nil_iff.1 hnil
    exact ⟨_, _, .refl, .refl⟩
  | head step walks ih =>
    subst ha
    cases first with
    | nil => exact ⟨_, _, .refl, .head step walks⟩
    | cons part first =>
      cases step with
      | idle idle =>
        obtain ⟨between, middle, hfirst, hmore⟩ := ih rfl
        exact ⟨between, middle, .head (.idle idle) hfirst, hmore⟩
      | up =>
        obtain ⟨between, middle, hfirst, hmore⟩ := ih rfl
        exact ⟨between, middle, .head .up hfirst, hmore⟩
      | down busy named short directory =>
        obtain ⟨between, middle, hfirst, hmore⟩ := ih rfl
        exact ⟨between, middle, .head (.down busy named short directory) hfirst, hmore⟩
      | through busy named short link =>
        obtain ⟨between, middle, hfirst, hmore⟩ := ih (congrArg _ (List.append_assoc _ _ _))
        exact ⟨between, middle, .head (.through busy named short link) hfirst, hmore⟩

/-- An empty part at the end may be left out. -/
lemma Walks.dropIdle {links links' : Nat} {here place : Place} {parts : List Text}
    (h : Walks root ⟨links, here, parts ++ [[]]⟩ ⟨links', place, []⟩) :
    Walks root ⟨links, here, parts⟩ ⟨links', place, []⟩ := by
  obtain ⟨between, middle, hparts, hidle⟩ := h.cut
  obtain ⟨b, step, walks⟩ := (ReflTransGen.cases_head hidle).resolve_left (by simp)
  cases step with
  | idle => exact hparts.trans walks
  | down busy => cases busy
  | through busy => cases busy

lemma Walks.found_directory {links links' : Nat} {here place : Place} {parts : List Text}
    {es : List (Text × Node)} (h : Walks root ⟨links, here, parts⟩ ⟨links' + 1, place, []⟩)
    (directory : root.get? place = some (.directory es)) :
    walkThrough root true links here parts = .ok (.found place (.directory es)) := by
  have hfound := h.found_eq
  simp only [Walker.found, walkThrough, walk, directory] at hfound
  exact hfound

/-! ### Walks in another tree -/

/-- A tree has the directories and links of another one. -/
def KeepsWays (root root' : Node) : Prop :=
  ∀ place node, root.kindAt? place = some node → node.isFile = false → root'.kindAt? place = some node

lemma Walk.keep (keeps : KeepsWays root root') (h : Walk root a b) : Walk root' a b := by
  cases h with
  | idle idle => exact .idle idle
  | up => exact .up
  | down busy named short directory => exact .down busy named short (keeps _ _ directory rfl)
  | through busy named short link => exact .through busy named short (keeps _ _ link rfl)

/-- A walk leads to the same place in a tree that has the same directories and links. -/
lemma Walks.keep (keeps : KeepsWays root root') (h : Walks root a b) : Walks root' a b :=
  h.lift id fun _ _ step => step.keep keeps

end Custodian.FileTree
