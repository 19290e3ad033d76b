import Custodian.Proofs.FileTree.Present

/-!
# Directories that are still to be made

A path may lead to nothing in a directory that is there. Nothing can be reached below it
(`IsVacant.resolve_join`). When directories are made, it still leads to nothing, or to a directory at the
same place (`IsVacant.grows`). If its last part is an entry of a directory, then the directory can be made
(`IsVacant.makeDirectories`).
-/

namespace Custodian.FileTree

/-- A path leads to a place in a directory where nothing is. -/
def IsVacant (t : FileTree) (path : Text) (place : Place) : Prop :=
  ∃ asDirectory, t.resolve path = .ok (.absent place asDirectory)

/-- A walker stands before a name that is not there, and nothing but empty parts follow the name. -/
structure IsStuck (root : Node) (a : Walker) (place : Place) : Prop where
  exists_left : ∃ links here name more, a = ⟨links + 1, here, name :: more⟩ ∧ place = here ++ [name] ∧
    Path.isIdle name = false ∧ name ≠ ['.', '.'] ∧ Utf8.size name ≤ longestName ∧ ∀ part ∈ more, part = []
  absent : root.get? place = none

/-- Idle parts lead nowhere else. -/
lemma walk_idle (root : Node) (follow : Place → List Text → Except Fault Target) (here : Place)
    {idle : List Text} (hidle : ∀ part ∈ idle, Path.isIdle part = true) :
    walk root true follow here idle =
      match root.get? here with
      | some node => .ok (.found here node)
      | none => .error .missing := by
  induction idle with
  | nil =>
    unfold walk
    rfl
  | cons part idle ih =>
    rw [walk, if_pos (hidle part List.mem_cons_self),
      ih fun next hnext => hidle next (List.mem_cons_of_mem _ hnext)]

lemma isIdle_of_empty {parts : List Text} (h : ∀ part ∈ parts, part = []) :
    ∀ part ∈ parts, Path.isIdle part = true := by
  intro part hpart
  rw [h part hpart]
  rfl

/-- **Where nothing is found**, a walk gets stuck, whether or not empty parts follow. -/
theorem exists_walks_stuck {root : Node} {links : Nat} {here place : Place} {parts idle : List Text}
    {asDirectory : Bool} (hidle : ∀ part ∈ idle, part = [])
    (h : walkThrough root true links here (parts ++ idle) = .ok (.absent place asDirectory)) :
    ∃ b, Walks root ⟨links, here, parts⟩ b ∧ IsStuck root b place := by
  obtain ⟨⟨rest, there, left⟩, walks, halts⟩ := exists_halts root ⟨links, here, parts⟩
  have hfound : Walker.found root ⟨rest, there, left ++ idle⟩ = .ok (.absent place asDirectory) :=
    (Walks.found_eq (walks.append idle)).symm.trans h
  rcases rest with _ | rest
  · cases hfound
  rcases halts.cases with hzero | rfl | ⟨name, more, rfl, blocked⟩
  · cases hzero
  · rw [List.nil_append, Walker.found, walkThrough, walk_idle _ _ _ (isIdle_of_empty hidle)] at hfound
    split at hfound <;> cases hfound
  · rw [List.cons_append] at hfound
    rcases blocked.found_cases (more ++ idle) with
      ⟨fault, hb⟩ | ⟨hnone, hall, short, hb⟩ | ⟨content, -, -, hb⟩ <;> rw [hb] at hfound <;> cases hfound
    refine ⟨_, walks, ⟨rest, there, name, more, rfl, rfl, blocked.busy, blocked.named, short, ?_⟩, hnone⟩
    intro next hnext
    simpa using List.all_eq_true.1 hall next (List.mem_append_left _ hnext)

section Vacant

variable {t t' : FileTree} {path name : Text} {place : Place}

lemma IsVacant.checkPath (h : t.IsVacant path place) : FileTree.checkPath path = .ok () := by
  obtain ⟨asDirectory, hresolve⟩ := h
  exact checkPath_of_resolve hresolve

/-- **Nothing is reached below a vacant place.** -/
theorem IsVacant.resolve_join (h : t.IsVacant path place) (hname : IsName name) :
    ∃ fault, t.resolve (Path.join path name) = .error fault := by
  have hpath := h.checkPath
  obtain ⟨asDirectory, hresolve⟩ := h
  rw [resolve_eq hpath] at hresolve
  obtain ⟨parts, hjoin, hparts⟩ := origin_join hname t.working (ne_nil_of_checkPath hpath)
  obtain ⟨b, walks, ⟨links, here, next, more, rfl, rfl, hbusy, hnamed, hshort, hmore⟩, hnone⟩ :
      ∃ b, Walks t.root ⟨mostLinks + 1, (origin t.working path).1, parts⟩ b ∧ IsStuck t.root b place := by
    rcases hparts with hparts | hparts <;> rw [hparts] at hresolve
    · rw [← List.append_nil parts] at hresolve
      exact exists_walks_stuck (by simp) hresolve
    · exact exists_walks_stuck (by simp) hresolve
  rcases hcheck : FileTree.checkPath (Path.join path name) with fault | ⟨⟩
  · refine ⟨fault, ?_⟩
    rw [resolve, hcheck]
    rfl
  · refine ⟨.missing, ?_⟩
    have hfound := (walks.append [name]).found_eq
    have hne : ¬(more ++ [name]).all (·.isEmpty) = true := by simp [hname.ne_nil]
    rw [resolve_eq hcheck, hjoin]
    refine hfound.trans ?_
    rw [List.cons_append, found_of_busy hbusy hnamed hshort, hnone]
    exact if_neg hne

lemma IsVacant.readFile (h : t.IsVacant path place) (hname : IsName name) :
    ∃ fault, t.readFile (Path.join path name) = .error fault := by
  obtain ⟨fault, hresolve⟩ := h.resolve_join hname
  refine ⟨fault, ?_⟩
  rw [FileTree.readFile, hresolve]
  rfl

lemma IsVacant.writeFile (h : t.IsVacant path place) (hname : IsName name) (content : Bytes) :
    ∃ fault, t.writeFile (Path.join path name) content = .error fault := by
  obtain ⟨fault, hresolve⟩ := h.resolve_join hname
  refine ⟨fault, ?_⟩
  rw [FileTree.writeFile, hresolve]
  rfl

/-- **When directories are made**, a vacant place stays so or becomes a directory. -/
theorem IsVacant.grows (h : t.IsVacant path place) (grows : Grows t t') :
    t'.IsVacant path place ∨ t'.Names path place := by
  have hpath := h.checkPath
  obtain ⟨asDirectory, hresolve⟩ := h
  rw [resolve_eq hpath, ← List.append_nil (origin t.working path).2] at hresolve
  obtain ⟨b, walks, ⟨links, here, next, more, rfl, rfl, hbusy, hnamed, hshort, hmore⟩, hnone⟩ :=
    exists_walks_stuck (by simp) hresolve
  have hfound := (walks.keep grows.keepsWays).found_eq
  have hresolve' : t'.resolve path = Walker.found t'.root ⟨links + 1, here, next :: more⟩ := by
    rw [resolve_eq hpath, grows.working]
    exact hfound
  have hall : more.all (·.isEmpty) = true := by
    rw [List.all_eq_true]
    intro part hpart
    rw [hmore part hpart]
    rfl
  rcases grows.new _ (Node.kindAt?_eq_none.2 hnone) with hnone' | hempty
  · left
    refine ⟨!more.isEmpty, ?_⟩
    rw [hresolve', found_of_busy hbusy hnamed hshort, Node.kindAt?_eq_none.1 hnone']
    simp [hall]
  · right
    obtain ⟨es, hes⟩ := Node.kindAt?_eq_directory.1 hempty
    refine ⟨es, ?_⟩
    rw [hresolve', found_of_busy hbusy hnamed hshort, hes]
    dsimp only
    rw [Walker.found, walkThrough, walk_idle _ _ _ (isIdle_of_empty hmore), hes]

/-- Nothing is below a vacant place. -/
lemma IsVacant.get?_eq_none (h : t.IsVacant path place) (more : Place) :
    t.root.get? (place ++ more) = none := by
  have hpath := h.checkPath
  obtain ⟨asDirectory, hresolve⟩ := h
  rw [resolve_eq hpath, ← List.append_nil (origin t.working path).2] at hresolve
  obtain ⟨b, -, -, hnone⟩ := exists_walks_stuck (by simp) hresolve
  rw [Node.get?_append, hnone, Option.bind_none]

/-! ### Making the directory -/

/-- A path at which a directory can be made, if none is there: it begins at the root, and it enters a
directory at the place where nothing is, not at that of a link. -/
structure IsMakeable (t : FileTree) (path : Text) (place : Place) : Prop where
  absolute : Path.isAbsolute path = true
  entered : t.IsVacant path place → ∃ e es, t.entry path = .ok e ∧ e.place = place ∧
    t.root.get? e.directory = some (.directory es)

/-- A path of the root is not vacant. -/
lemma IsVacant.components_ne (h : t.IsVacant path place) (absolute : Path.isAbsolute path = true) :
    Path.components path ≠ [.root] := by
  have hpath := h.checkPath
  obtain ⟨asDirectory, hresolve⟩ := h
  obtain ⟨rest, rfl⟩ := Path.exists_of_isAbsolute absolute
  intro hroot
  have hidle : ∀ part ∈ Text.splitOn '/' rest, Path.isIdle part = true := by
    have hnone := (List.cons.inj hroot).2
    simpa [List.filter_eq_nil_iff] using hnone
  rw [resolve_eq hpath, origin_slash, walkThrough] at hresolve
  dsimp only at hresolve
  rw [walk_idle _ _ _ hidle, Node.get?_nil] at hresolve
  cases hresolve

/-- **A directory is made** at a vacant place that is entered, and there is nothing in it. -/
theorem IsVacant.makeDirectories (h : t.IsVacant path place) (makeable : t.IsMakeable path place) :
    ∃ made, t.makeDirectories path = (.ok (), made) ∧ made.Names path place ∧
      ∀ name, made.root.get? (place ++ [name]) = none := by
  obtain ⟨e, es, hentry, rfl, hdirectory⟩ := makeable.entered h
  obtain ⟨made, hput⟩ := exists_put hdirectory e.name .empty
  have hnone : t.root.get? e.place = none := by
    simpa using h.get?_eq_none []
  have hmake : t.makeDirectory path = .ok made := by
    unfold makeDirectory
    rw [hentry]
    dsimp only
    rw [hnone]
    exact hput
  have hmade : t.makeIfMissing path = .made made := by
    rw [makeIfMissing, hmake]
  have hplaced := Node.get?_of_put? (put_eq_ok_iff.1 hput).1
  refine ⟨made, ?_, ?_, fun name => hplaced [name]⟩
  · unfold FileTree.makeDirectories
    rw [if_neg (by simp [ne_nil_of_checkPath h.checkPath, h.components_ne makeable.absolute])]
    obtain ⟨c, rest, rfl⟩ := List.exists_cons_of_ne_nil (ne_nil_of_checkPath h.checkPath)
    rw [List.length_cons, ancestors, makeOutermost, hmade]
    rfl
  · rcases h.grows (makeDirectory_grows hmake) with vacant | names
    · have hgone := vacant.get?_eq_none []
      rw [show e.place = e.directory ++ [e.name] from rfl, hplaced []] at hgone
      cases hgone
    · exact names

end Vacant

end Custodian.FileTree
