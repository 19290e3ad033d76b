import Custodian.Proofs.FileTree.Making

/-!
# Directories that were made

* `makeDirectories_isDirectory`: a directory that was to be made with those around it is there afterwards;
* `Moves`: what has become of a tree whose node at one place was given another one, and `rename_moves`.
-/

namespace Custodian.FileTree

variable {t t' : FileTree} {path : Text} {paths : List Text} {place : Place}

/-! ### They are there -/

lemma isDirectory_iff : t.isDirectory path = true ↔ ∃ place, t.Names path place := by
  unfold isDirectory directory Names
  rcases t.resolve path with fault | ⟨place, content | target | es⟩ | ⟨place, asDirectory⟩ <;>
    simp [bind, Except.bind, pure, Except.pure]

lemma Grows.isDirectory (h : Grows t t') (there : t.isDirectory path = true) : t'.isDirectory path = true := by
  obtain ⟨place, names⟩ := isDirectory_iff.1 there
  exact isDirectory_iff.2 ⟨place, names.keep h.keepsWays h.working⟩

/-- Empty parts lead nowhere else. -/
lemma walks_empty {root : Node} {links : Nat} {idle : List Text} (h : ∀ part ∈ idle, part = []) :
    Walks root ⟨links + 1, place, idle⟩ ⟨links + 1, place, []⟩ := by
  induction idle with
  | nil => exact .refl
  | cons part idle ih =>
    obtain ⟨rfl, hidle⟩ := List.forall_mem_cons.1 h
    exact .head (.idle rfl) (ih hidle)

/-- A directory that is made is named by its path. -/
lemma names_of_makeDirectory (h : t.makeDirectory path = .ok t') : ∃ place, t'.Names path place := by
  have grows := makeDirectory_grows h
  obtain ⟨e, hentry, hmissing, hput⟩ := makeDirectory_cases h
  obtain ⟨init, idle, node, hparts, hidle, hne, hdot, hdots, hshort, hwalk⟩ := entry_cases hentry
  obtain ⟨es, hes⟩ := Node.kindAt?_eq_directory.1 (directory_of_put hput)
  obtain rfl : node = .directory es := Option.some.inj ((exists_walks_of_found hwalk).1.symm.trans hes)
  obtain ⟨⟨left, walks⟩, -⟩ := exists_walks hwalk
  have hplaced := Node.get?_of_put? (put_eq_ok_iff.1 hput).1 []
  rw [List.append_nil, Node.get?_nil] at hplaced
  have hstep : Walk t'.root ⟨left + 1, e.directory, e.name :: idle⟩ ⟨left + 1, e.place, idle⟩ :=
    .down (by simp [Path.isIdle, hne, hdot]) hdots hshort (Node.kindAt?_eq_directory.2 ⟨[], hplaced⟩)
  have hwalks : Walks t'.root ⟨mostLinks + 1, (origin t.working path).1, init ++ e.name :: idle⟩
      ⟨left + 1, e.place, []⟩ :=
    (((walks.dropIdle.keep grows.keepsWays).append (e.name :: idle)).tail hstep).trans (walks_empty hidle)
  refine ⟨e.place, [], ?_⟩
  rw [resolve_eq (checkPath_of_entry hentry), grows.working, hparts]
  exact hwalks.found_directory hplaced

lemma makeIfMissing_isDirectory (h : t.makeIfMissing path = .made t') : t'.isDirectory path = true := by
  unfold makeIfMissing at h
  split at h
  · next hmake =>
    cases h
    exact isDirectory_iff.2 (names_of_makeDirectory hmake)
  · split at h
    · cases h
    · split at h <;> cases h

lemma isDirectory_of_present (h : t.makeIfMissing path = .present) : t.isDirectory path = true := by
  unfold makeIfMissing at h
  split at h
  · cases h
  · split at h
    · cases h
    · split at h
      · assumption
      · cases h

lemma makeEach_isDirectory (h : (t.makeEach paths).1 = .ok ()) :
    ∀ path ∈ paths, (t.makeEach paths).2.isDirectory path = true := by
  induction paths generalizing t with
  | nil => exact nofun
  | cons path paths ih =>
    -- what is there before the others are made is there afterwards
    have first : ∀ made : FileTree, t.makeEach (path :: paths) = made.makeEach paths →
        made.isDirectory path = true →
        ∀ p ∈ path :: paths, (t.makeEach (path :: paths)).2.isDirectory p = true := by
      intro made heq there
      rw [heq] at h ⊢
      rw [List.forall_mem_cons]
      exact ⟨(makeEach_grows made paths).isDirectory there, ih h⟩
    rcases hmade : t.makeIfMissing path with made | _ | _ | fault
    · exact first made (by rw [makeEach, hmade]) (makeIfMissing_isDirectory hmade)
    · exact first t (by rw [makeEach, hmade]) (isDirectory_of_present hmade)
    · by_cases there : t.isDirectory path = true
      · exact first t (by rw [makeEach, hmade]; exact if_pos there) there
      · rw [makeEach, hmade] at h
        dsimp only at h
        rw [if_neg there] at h
        cases h
    · rw [makeEach, hmade] at h
      cases h

/-- What was still to be made is to be made. -/
lemma subset_of_makeOutermost {todo rest : List Text} (h : t.makeOutermost todo paths = .ok (t', rest)) :
    todo ⊆ rest := by
  induction paths generalizing todo with
  | nil =>
    cases h
    exact List.Subset.refl _
  | cons path paths ih =>
    unfold makeOutermost at h
    split at h
    · cases h
      exact List.Subset.refl _
    · cases h
      exact List.Subset.refl _
    · exact List.Subset.trans (List.subset_cons_self _ _) (ih h)
    · cases h

/-- What is looked at first is there, or is still to be made. -/
lemma makeOutermost_isDirectory {todo rest : List Text}
    (h : t.makeOutermost todo (path :: paths) = .ok (t', rest)) :
    path ∈ rest ∨ t'.isDirectory path = true := by
  unfold makeOutermost at h
  split at h
  · next hmade =>
    cases h
    exact .inr (makeIfMissing_isDirectory hmade)
  · next hpresent =>
    cases h
    exact .inr (isDirectory_of_present hpresent)
  · exact .inl (subset_of_makeOutermost h List.mem_cons_self)
  · cases h

/-- **A directory that was made** with those around it is there. -/
theorem makeDirectories_isDirectory (hpath : path ≠ []) (hroot : Path.components path ≠ [.root])
    (h : (t.makeDirectories path).1 = .ok ()) : (t.makeDirectories path).2.isDirectory path = true := by
  unfold makeDirectories at h ⊢
  rw [if_neg (by simp [hpath, hroot])] at h ⊢
  rcases houtermost : t.makeOutermost [] (ancestors path.length path) with fault | ⟨made, todo⟩ <;>
    rw [houtermost] at h
  · cases h
  dsimp only at h ⊢
  obtain ⟨c, rest, rfl⟩ := List.exists_cons_of_ne_nil hpath
  rw [List.length_cons, ancestors] at houtermost
  rcases makeOutermost_isDirectory houtermost with hmem | there
  · exact makeEach_isDirectory h _ hmem
  · exact (makeEach_grows made todo).isDirectory there

/-! ### Nodes that were moved -/

/-- What is at one place in a tree, and below it, was given another place. A directory with something in it
has not been replaced. -/
structure Moves (source target : Place) (t t' : FileTree) : Prop where
  working : t'.working = t.working
  placed : ∀ more, t'.root.get? (target ++ more) = t.root.get? (source ++ more)
  vacated : source ≠ target → ∀ more, t'.root.get? (source ++ more) = none
  room : source ≠ target → ∀ es, t.root.get? target = some (.directory es) → es = []
  others : ∀ place, ¬source <+: place → ¬target <+: place → t'.root.kindAt? place = t.root.kindAt? place

section Moves

variable {a b : Place} {node : Node}

lemma Moves.refl (a : Place) (t : FileTree) : Moves a a t t where
  working := rfl
  placed _ := rfl
  vacated hne := absurd rfl hne
  room hne := absurd rfl hne
  others _ _ _ := rfl

lemma eq_nil_of_mayReplace {es : List (Text × Node)} (h : mayReplace node (some (.directory es)) = .ok ()) :
    es = [] := by
  cases node with
  | file content => cases h
  | link target => cases h
  | directory entries =>
    cases es with
    | nil => rfl
    | cons entry es => cases h

/-- Nothing is put in place of a directory that something lies in. -/
lemma not_prefix_of_mayReplace (hnode : t.root.get? a = some node) (hne : a ≠ b)
    (room : mayReplace node (t.root.get? b) = .ok ()) : ¬b <+: a := by
  rintro ⟨more, rfl⟩
  rcases more with _ | ⟨name, more⟩
  · exact hne (List.append_nil b)
  · obtain ⟨es, hes⟩ := Node.exists_directory_of_get? hnode
    rw [hes] at room
    rw [Node.get?_append, hes, eq_nil_of_mayReplace room] at hnode
    cases hnode

/-- Nothing is put into what was taken away. -/
lemma not_prefix_of_put {e : Entry} (ha : a ≠ []) (hne : a ≠ e.place)
    (h : FileTree.put { t with root := t.root.erase a } e.place node = .ok t') : ¬a <+: e.place := by
  intro hprefix
  rcases List.prefix_concat_iff.1 hprefix with heq | hprefix
  · exact hne heq
  · have hdirectory := directory_of_put h
    dsimp only at hdirectory
    rw [kindAt?_erase_below ha hprefix] at hdirectory
    cases hdirectory

lemma eq_of_rename_same {source target : Text} {from' to' : Entry} (hfrom : t.entry source = .ok from')
    (hto : t.entry target = .ok to') (hsame : from'.place = to'.place) (h : t.rename source target = .ok t') :
    t' = t := by
  unfold rename at h
  rw [hfrom, hto] at h
  dsimp only [bind, Except.bind] at h
  rcases hnode : t.root.get? from'.place with _ | node <;> rw [hnode] at h
  · cases h
  dsimp only at h
  split at h
  · cases h
  · cases h
    rfl

/-- **Renaming** moves the node that the source means to where the target is entered. -/
theorem rename_moves {source target : Text} (h : t.rename source target = .ok t') :
    ∃ from' to', t.entry source = .ok from' ∧ t.entry target = .ok to' ∧
      (t.root.get? from'.place).isSome = true ∧ Moves from'.place to'.place t t' := by
  obtain ⟨from', to', node, hfrom, hto, hnode, hcases⟩ := rename_cases h
  refine ⟨from', to', hfrom, hto, by rw [hnode]; rfl, ?_⟩
  by_cases hne : from'.place = to'.place
  · rw [eq_of_rename_same hfrom hto hne h, hne]
    exact .refl _ _
  rcases hcases with ⟨heq, -⟩ | ⟨room, hput⟩
  · exact absurd heq hne
  have hput' := (put_eq_ok_iff.1 hput).1
  have hfrom_ne : from'.place ≠ [] := by simp [Entry.place]
  refine ⟨(put_eq_ok_iff.1 hput).2, ?_, ?_, ?_, ?_⟩
  · intro more
    rw [Node.get?_of_put? hput', Node.get?_append, hnode, Option.bind_some]
  · intro _ more
    have outside : ¬to'.place <+: from'.place ++ more := by
      intro hprefix
      rcases List.prefix_or_prefix_of_prefix hprefix (List.prefix_append _ _) with hbelow | habove
      · exact not_prefix_of_mayReplace hnode hne room hbelow
      · exact not_prefix_of_put hfrom_ne hne hput habove
    rw [← Node.kindAt?_eq_none, Node.kindAt?_of_put? hput' outside,
      kindAt?_erase_below hfrom_ne (List.prefix_append _ _)]
  · intro _ es hes
    rw [hes] at room
    exact eq_nil_of_mayReplace room
  · intro place hsource htarget
    exact kindAt?_of_renamed hput hsource htarget

end Moves

end Custodian.FileTree
