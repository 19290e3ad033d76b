import Custodian.Proofs.FileTree.Reached

/-!
# Directories that are being made

A directory is made together with those around it that are missing, one by one, at paths that lie above its
own (`isAbove_of_mem_ancestors`). This may stop anywhere on the way (`Makes`).

The first directory that is made is the first one that is missing on the way of the path
(`leadsBeyond_of_makeDirectory`). If the path does not lead up again behind it, then what the path comes to
name was named before, or nothing was there (`Makes.names_cases`).
-/

namespace Custodian.FileTree

open Relation

/-! ### The paths around a path -/

/-- The parts of a path begin with those of another one, which begins at the same place; or the other one is
the root. -/
def IsAbove (here : Place) (above path : Text) : Prop :=
  (origin here above).1 = (origin here path).1 ∧
    ((origin here above).2 <+: (origin here path).2 ∨ (origin here above).2 = [[]])

variable {here : Place} {above path : Text}

lemma IsAbove.refl (here : Place) (path : Text) : IsAbove here path path :=
  ⟨rfl, .inl (List.prefix_refl _)⟩

lemma origin_ne_nil (here : Place) (path : Text) : (origin here path).2 ≠ [] := by
  unfold origin
  split
  · exact Text.splitOn_ne_nil _ _
  · exact Text.splitOn_ne_nil _ _

lemma IsAbove.trans {between : Text} (h : IsAbove here above between) (h' : IsAbove here between path) :
    IsAbove here above path := by
  refine ⟨h.1.trans h'.1, ?_⟩
  rcases h.2 with begins | hroot
  · rcases h'.2 with begins' | hroot'
    · exact .inl (begins.trans begins')
    · rw [hroot'] at begins
      obtain ⟨part, rest, hparts⟩ := List.exists_cons_of_ne_nil (origin_ne_nil here above)
      rw [hparts, List.cons_prefix_cons, List.prefix_nil] at begins
      exact .inr (by rw [hparts, begins.1, begins.2])
  · exact .inr hroot

/-- The parts that are left for the parent. -/
def parentParts (parts : List Text) : List Text :=
  Path.dropIdleEnd (Path.dropIdleEnd parts).dropLast

lemma parentParts_isPrefix (parts : List Text) : parentParts parts <+: parts :=
  (Path.dropIdleEnd_isPrefix _).trans ((List.dropLast_prefix _).trans (Path.dropIdleEnd_isPrefix parts))

lemma parent?_eq {parent : Text} (h : Path.parent? path = some parent) (hne : parent ≠ []) :
    parent = (Path.split path).1.text ++ Path.joinParts (parentParts (Path.split path).2) := by
  unfold Path.parent? at h
  dsimp only at h
  split at h
  · split at h <;> cases h
    exact absurd rfl hne
  · exact (Option.some.inj h).symm

/-- Parts that are joined again after the first ones of a text. -/
lemma splitOn_joinParts {parts : List Text} {t : Text} (hparts : parts <+: Text.splitOn '/' t)
    (hne : parts ≠ []) : Text.splitOn '/' (Path.joinParts parts) = parts :=
  Text.splitOn_join hne fun _ hpart => Text.not_mem_of_mem_splitOn (hparts.subset hpart)

lemma joinParts_cons_cons (c : Char) (part : Text) (parts : List Text) :
    Path.joinParts ((c :: part) :: parts) = c :: Path.joinParts (part :: parts) := by
  cases parts <;> simp [Path.joinParts, Text.join, List.intercalate]

/-- The first parts of a path that begins with no slash, joined again. -/
lemma origin_joinParts {c : Char} (hc : c ≠ '/') {part : Text} {parts : List Text} {t : Text}
    (hparts : (c :: part) :: parts <+: Text.splitOn '/' t) (here : Place) :
    origin here (Path.joinParts ((c :: part) :: parts)) = (here, (c :: part) :: parts) := by
  have hsplit := splitOn_joinParts hparts (List.cons_ne_nil _ _)
  rw [joinParts_cons_cons] at hsplit ⊢
  rw [origin_of_ne hc, hsplit]

/-- The first parts of a path lie above it, as they are spelled. -/
lemma isAbove_of_isPrefix {parts : List Text} (hparts : parts <+: (Path.split path).2)
    (hne : (Path.split path).1.text ++ Path.joinParts parts ≠ []) :
    IsAbove here ((Path.split path).1.text ++ Path.joinParts parts) path := by
  revert hparts hne
  fun_cases Path.split path with
  | case1 rest =>
    intro hparts _
    refine ⟨rfl, ?_⟩
    dsimp only [Path.Lead.text, List.singleton_append] at *
    rw [origin_slash, origin_slash]
    dsimp only
    by_cases hnil : parts = []
    · rw [hnil]
      exact .inr rfl
    · rw [splitOn_joinParts hparts hnil]
      exact .inl hparts
  | case2 =>
    intro hparts _
    obtain rfl := List.prefix_nil.1 hparts
    exact .refl _ _
  | case3 rest =>
    intro hparts _
    have hsplit : Text.splitOn '/' ('.' :: '/' :: rest) = ['.'] :: Text.splitOn '/' rest :=
      Text.splitOn_append '/' ['.'] rest
    have hpath : origin here ('.' :: '/' :: rest) = (here, ['.'] :: Text.splitOn '/' rest) := by
      rw [origin_of_ne (by decide), hsplit]
    dsimp only [Path.Lead.text, List.singleton_append] at *
    cases parts with
    | nil =>
      refine ⟨by rw [hpath]; rfl, .inl ?_⟩
      rw [hpath]
      exact List.prefix_append [['.']] _
    | cons first more =>
      obtain ⟨rfl, hmore⟩ := List.cons_prefix_cons.1 hparts
      have hdotted : ['.'] :: more <+: ['.'] :: Text.splitOn '/' rest :=
        List.cons_prefix_cons.2 ⟨rfl, hmore⟩
      have horigin := origin_joinParts (by decide) (hsplit ▸ hdotted) here
      rw [← joinParts_cons_cons]
      refine ⟨by rw [horigin, hpath], .inl ?_⟩
      rw [horigin, hpath]
      exact hdotted
  | case4 path hslash =>
    intro hparts hne
    dsimp only [Path.Lead.text, List.nil_append] at *
    rcases path with _ | ⟨c, rest⟩
    · have hnil : Path.joinParts parts = [] := by
        rcases parts with _ | ⟨first, more⟩
        · rfl
        · obtain ⟨rfl, hmore⟩ := List.cons_prefix_cons.1 hparts
          rw [List.prefix_nil.1 hmore]
          rfl
      exact absurd hnil hne
    have hc : c ≠ '/' := by
      rintro rfl
      exact hslash rest rfl
    obtain ⟨first, others, hsplit⟩ : ∃ first others, Text.splitOn '/' (c :: rest) = (c :: first) :: others := by
      obtain ⟨first, others, hrest⟩ := List.exists_cons_of_ne_nil (Text.splitOn_ne_nil '/' rest)
      exact ⟨first, others, by rw [Text.splitOn, if_neg hc, hrest]⟩
    rcases parts with _ | ⟨part, more⟩
    · exact absurd rfl hne
    · have hbegin := hparts
      rw [hsplit] at hbegin
      obtain ⟨rfl, -⟩ := List.cons_prefix_cons.1 hbegin
      have horigin := origin_joinParts hc hparts here
      refine ⟨by rw [horigin, origin_of_ne hc], .inl ?_⟩
      rw [horigin, origin_of_ne hc]
      exact hparts

/-- The parent of a path lies above it, unless it is the working directory. -/
lemma isAbove_of_parent? {parent : Text} (h : Path.parent? path = some parent) (hne : parent ≠ []) :
    IsAbove here parent path := by
  have hparent := parent?_eq h hne
  subst hparent
  exact isAbove_of_isPrefix (parentParts_isPrefix _) hne

lemma isAbove_of_mem_ancestors {steps : Nat} (h : above ∈ ancestors steps path) : IsAbove here above path := by
  induction steps generalizing path with
  | zero => cases h
  | succ steps ih =>
    rw [ancestors, List.mem_cons] at h
    rcases h with rfl | h
    · exact .refl _ _
    rcases hparent : Path.parent? path with _ | parent <;> rw [hparent] at h
    · cases h
    · dsimp only at h
      split at h
      · cases h
      · next hne => exact (ih h).trans (isAbove_of_parent? hparent (by simpa using hne))

/-! ### Making directories one by one -/

/-- Some of the directories at some paths were made, one after the other. -/
def Makes (paths : List Text) : FileTree → FileTree → Prop :=
  ReflTransGen fun t t' => ∃ path ∈ paths, t.makeDirectory path = .ok t'

variable {t t' made : FileTree} {paths : List Text} {place : Place} {name : Text}

lemma Makes.grows (h : Makes paths t t') : Grows t t' := by
  induction h with
  | refl => exact .refl t
  | tail _ step ih =>
    obtain ⟨path, -, hmake⟩ := step
    exact ih.trans (makeDirectory_grows hmake)

lemma makeIfMissing_makes (hmem : path ∈ paths) (h : t.makeIfMissing path = .made t') : Makes paths t t' := by
  unfold makeIfMissing at h
  split at h
  · next hmake =>
    cases h
    exact .single ⟨path, hmem, hmake⟩
  · split at h
    · cases h
    · split at h <;> cases h

/-- What is left to be made are some of the same directories. -/
lemma makeOutermost_makes {todo rest some : List Text} (htodo : todo ⊆ paths) (hsome : some ⊆ paths)
    (h : t.makeOutermost todo some = .ok (t', rest)) : Makes paths t t' ∧ rest ⊆ paths := by
  induction some generalizing todo with
  | nil =>
    cases h
    exact ⟨.refl, htodo⟩
  | cons path some ih =>
    obtain ⟨hpath, hsome⟩ := List.cons_subset.1 hsome
    unfold makeOutermost at h
    split at h
    · next hmade =>
      cases h
      exact ⟨makeIfMissing_makes hpath hmade, htodo⟩
    · cases h
      exact ⟨.refl, htodo⟩
    · exact ih (List.cons_subset.2 ⟨hpath, htodo⟩) hsome h
    · cases h

lemma makeEach_makes {some : List Text} (hsome : some ⊆ paths) (t : FileTree) :
    Makes paths t (t.makeEach some).2 := by
  induction some generalizing t with
  | nil => exact .refl
  | cons path some ih =>
    obtain ⟨hpath, hsome⟩ := List.cons_subset.1 hsome
    unfold makeEach
    split
    · next hmade => exact (makeIfMissing_makes hpath hmade).trans (ih hsome _)
    · exact ih hsome t
    · split
      · exact ih hsome t
      · exact .refl
    · exact .refl

/-- **Making a directory** makes directories at its path and around it, as far as it gets. -/
theorem makeDirectories_makes (t : FileTree) (path : Text) :
    Makes (ancestors path.length path) t (t.makeDirectories path).2 := by
  unfold makeDirectories
  split
  · exact .refl
  rcases houtermost : t.makeOutermost [] (ancestors path.length path) with fault | ⟨after, todo⟩
  · exact .refl
  · obtain ⟨makes, htodo⟩ := makeOutermost_makes (List.nil_subset _) (List.Subset.refl _) houtermost
    exact makes.trans (makeEach_makes htodo after)

/-! ### Where something is made -/

/-- A path leads to the directory at a place, and its next part is a name that is not there. -/
structure LeadsBeyond (t : FileTree) (path : Text) (place : Place) (name : Text) (more : List Text) :
    Prop where
  isName : IsName name
  short : Utf8.size name ≤ longestName
  reached : ∃ first left, (origin t.working path).2 = first ++ name :: more ∧
    Walks t.root ⟨mostLinks + 1, (origin t.working path).1, first⟩ ⟨left + 1, place, []⟩
  missing : t.root.get? (place ++ [name]) = none

/-- Where a path leads to a name that is not there, no two dots follow. -/
def IsStraight (t : FileTree) (path : Text) : Prop :=
  ∀ place name more, t.LeadsBeyond path place name more → ['.', '.'] ∉ more

/-- A path that names a directory is straight. -/
lemma Names.isStraight (h : t.Names path place) : t.IsStraight path := by
  intro gap name more beyond
  obtain ⟨first, left, hparts, walks⟩ := beyond.reached
  obtain ⟨es, hes⟩ := h
  rw [resolve_eq (checkPath_of_resolve hes), hparts] at hes
  have hstuck := (Walks.found_eq (walks.append (name :: more))).symm.trans hes
  rw [List.nil_append, found_of_busy beyond.isName.busy beyond.isName.named beyond.short,
    beyond.missing] at hstuck
  dsimp only at hstuck
  split at hstuck <;> cases hstuck

/-- What an entry is entered in: the parts before its name lead there. -/
lemma entry_cases {e : Entry} (h : t.entry path = .ok e) :
    ∃ init idle node, (origin t.working path).2 = init ++ e.name :: idle ∧ (∀ part ∈ idle, part = []) ∧
      e.name ≠ [] ∧ e.name ≠ ['.'] ∧ e.name ≠ ['.', '.'] ∧ Utf8.size e.name ≤ longestName ∧
      walkThrough t.root true (mostLinks + 1) (origin t.working path).1 (init ++ [[]]) =
        .ok (.found e.directory node) := by
  unfold entry at h
  rw [checkPath_of_entry h] at h
  dsimp only [bind, Except.bind] at h
  rcases named_cases (origin t.working path).2 with hnil | ⟨init, name, idle, hnamed, hparts, hname, hidle⟩
  · have hlast : ((origin t.working path).2.reverse.dropWhile (·.isEmpty)).reverse = [] := hnil
    rw [hlast] at h
    cases h
  · have hlast : ((origin t.working path).2.reverse.dropWhile (·.isEmpty)).reverse = init ++ [name] := hnamed
    rw [hlast, List.getLast?_concat, List.dropLast_concat] at h
    dsimp only at h
    rcases hwalk : walkThrough t.root true (mostLinks + 1) (origin t.working path).1 (init ++ [[]]) with
      fault | ⟨directory, node⟩ | ⟨directory, asDirectory⟩ <;> rw [hwalk] at h
    · cases h
    · dsimp only at h
      split at h
      · cases h
      · next hdots =>
        split at h
        · cases h
        · next hshort =>
          cases h
          rw [not_or] at hdots
          exact ⟨init, idle, node, hparts, hidle, hname, hdots.1, hdots.2, Nat.not_lt.1 hshort, hwalk⟩
    · cases h

/-- A directory that is made is one that was made at a place. -/
lemma makeDirectory_cases (h : t.makeDirectory path = .ok t') :
    ∃ e, t.entry path = .ok e ∧ t.root.get? e.place = none ∧ t.put e.place .empty = .ok t' := by
  unfold makeDirectory at h
  rcases hentry : t.entry path with fault | e <;> rw [hentry] at h
  · cases fault <;> cases h
  · dsimp only at h
    split at h
    · cases h
    · next habsent => exact ⟨e, rfl, by simpa using habsent, h⟩

lemma whole_of_mem_origin {here : Place} {part : Text} (h : part ∈ (origin here path).2) : '/' ∉ part := by
  unfold origin at h
  split at h
  · exact Text.not_mem_of_mem_splitOn h
  · exact Text.not_mem_of_mem_splitOn h

/-- **The first directory that is made** for a path is the first one that is missing on its way. -/
theorem leadsBeyond_of_makeDirectory {steps : Nat} (habove : above ∈ ancestors steps path)
    (h : t.makeDirectory above = .ok t') :
    ∃ place name more, t.LeadsBeyond path place name more ∧
      t'.root.kindAt? (place ++ [name]) = some .empty := by
  obtain ⟨e, hentry, hmissing, hput⟩ := makeDirectory_cases h
  obtain ⟨init, idle, node, hparts, -, hne, hdot, hdots, hshort, hwalk⟩ := entry_cases hentry
  obtain ⟨es, hes⟩ := Node.kindAt?_eq_directory.1 (directory_of_put hput)
  obtain rfl : node = .directory es := Option.some.inj ((exists_walks_of_found hwalk).1.symm.trans hes)
  obtain ⟨⟨left, walks⟩, -⟩ := exists_walks hwalk
  have above_path : IsAbove t.working above path := isAbove_of_mem_ancestors habove
  have hplaced := Node.get?_of_put? (put_eq_ok_iff.1 hput).1 []
  rw [List.append_nil, Node.get?_nil] at hplaced
  have hmem : e.name ∈ (origin t.working above).2 := by
    rw [hparts]
    exact List.mem_append_right _ List.mem_cons_self
  have hwhole : '/' ∉ e.name := whole_of_mem_origin hmem
  have isName : IsName e.name := ⟨by simp [Path.isIdle, hne, hdot], hdots, hwhole⟩
  rcases above_path.2 with ⟨rest, hrest⟩ | hroot
  · refine ⟨e.directory, e.name, idle ++ rest, ⟨isName, hshort, ⟨init, left, ?_, ?_⟩, hmissing⟩, ?_⟩
    · rw [← hrest, hparts, List.append_assoc, List.cons_append]
    · rw [← above_path.1]
      exact walks.dropIdle
    · exact Node.kindAt?_eq_directory.2 ⟨[], hplaced⟩
  · rw [hroot] at hmem
    exact absurd (List.mem_singleton.1 hmem) hne

/-- Without two dots, a walk does not leave a part of the tree in which there are only directories. -/
lemma Walks.stays {root : Node} {a b : Walker} (plain : ∀ more, root.kindAt? (place ++ more) = none ∨
      root.kindAt? (place ++ more) = some .empty) (h : Walks root a b) (inside : place <+: a.here)
    (straight : ['.', '.'] ∉ a.left) : place <+: b.here ∧ ['.', '.'] ∉ b.left := by
  induction h with
  | refl => exact ⟨inside, straight⟩
  | tail _ step ih =>
    obtain ⟨inside, straight⟩ := ih
    cases step with
    | idle => exact ⟨inside, fun h => straight (List.mem_cons_of_mem _ h)⟩
    | up => exact absurd List.mem_cons_self straight
    | down =>
      exact ⟨inside.trans (List.prefix_append _ _), fun h => straight (List.mem_cons_of_mem _ h)⟩
    | @through links here part target left busy named short link =>
      obtain ⟨more, rfl⟩ := inside
      rw [List.append_assoc] at link
      rcases plain (more ++ [part]) with h | h <;> rw [h] at link <;> cases link

/-- **What a path comes to name** while directories are made for it, it has named before, or else nothing
was there before. -/
theorem Makes.names_cases {steps : Nat} (makes : Makes (ancestors steps path) t made)
    (straight : t.IsStraight path) (h : made.Names path place) :
    t.Names path place ∨ t.root.get? place = none := by
  rcases ReflTransGen.cases_head makes with rfl | ⟨after, ⟨above, habove, hmake⟩, later⟩
  · exact .inl h
  right
  obtain ⟨gap, name, more, beyond, hmade⟩ := leadsBeyond_of_makeDirectory habove hmake
  obtain ⟨first, left, hparts, walks⟩ := beyond.reached
  have grows := makes.grows
  have onwards : Makes (ancestors steps path) after made := later
  have hmade' : made.root.kindAt? (gap ++ [name]) = some .empty := onwards.grows.kept _ _ hmade
  -- the walk goes on from the new directory
  have hstep : Walk made.root ⟨left + 1, gap, name :: more⟩ ⟨left + 1, gap ++ [name], more⟩ :=
    .down beyond.isName.busy beyond.isName.named beyond.short hmade'
  have hwalks : Walks made.root ⟨mostLinks + 1, (origin t.working path).1, first ++ name :: more⟩
      ⟨left + 1, gap ++ [name], more⟩ :=
    ((walks.keep grows.keepsWays).append (name :: more)).tail hstep
  obtain ⟨es, hes⟩ := h
  rw [resolve_eq (checkPath_of_resolve hes), grows.working, hparts] at hes
  have hfound := (Walks.found_eq hwalks).symm.trans hes
  obtain ⟨⟨_, onward⟩, -⟩ := exists_walks hfound
  -- nothing but directories is there, and so it leads further down
  have plain : ∀ below, made.root.kindAt? (gap ++ [name] ++ below) = none ∨
      made.root.kindAt? (gap ++ [name] ++ below) = some .empty := by
    intro below
    apply grows.new
    rw [Node.kindAt?_eq_none, Node.get?_append, beyond.missing, Option.bind_none]
  obtain ⟨⟨below, rfl⟩, -⟩ := onward.stays plain (List.prefix_refl _) (straight gap name more beyond)
  rw [Node.get?_append, beyond.missing, Option.bind_none]

end Custodian.FileTree
