import Custodian.Proofs.FileTree.Walk
import Custodian.Proofs.Text.Split
import Mathlib.Data.List.DropRight

/-!
# Names in a directory

If a path names a directory, then the path joined with a name leads to the entry of that name
(`resolve_join`, `entry_join`), however the path is spelled and through whichever links it goes.
-/

namespace Custodian.FileTree

/-- A path names the directory at a place. -/
def Names (t : FileTree) (path : Text) (place : Place) : Prop :=
  ∃ es, t.resolve path = .ok (.found place (.directory es))

/-- A text that names an entry of a directory. -/
structure IsName (name : Text) : Prop where
  busy : Path.isIdle name = false
  named : name ≠ ['.', '.']
  whole : '/' ∉ name

lemma IsName.ne_nil {name : Text} (h : IsName name) : name ≠ [] := by
  rintro rfl
  cases h.busy

lemma IsName.isRelative {name : Text} (h : IsName name) : Path.isAbsolute name = false := by
  cases name with
  | nil => rfl
  | cons c name =>
    have hc : c ≠ '/' := by
      rintro rfl
      exact h.whole List.mem_cons_self
    simp [Path.isAbsolute, hc]

/-! ### Parts of a path -/

/-- What a text ends with, if it ends at a separator or is empty. -/
lemma splitOn_append_of_ends {name : Text} (whole : '/' ∉ name) {t : Text}
    (h : t = [] ∨ t.getLast? = some '/') :
    ∃ parts, Text.splitOn '/' (t ++ name) = parts ++ [name] ∧ Text.splitOn '/' t = parts ++ [[]] := by
  rcases h with rfl | h
  · exact ⟨[], Text.splitOn_of_not_mem whole, rfl⟩
  · obtain ⟨t, rfl⟩ := List.getLast?_eq_some_iff.1 h
    refine ⟨Text.splitOn '/' t, ?_, Text.splitOn_append '/' t []⟩
    rw [List.append_assoc, List.singleton_append, Text.splitOn_append, Text.splitOn_of_not_mem whole]

lemma origin_slash (here : Place) (t : Text) : origin here ('/' :: t) = ([], Text.splitOn '/' t) := rfl

lemma origin_of_ne {c : Char} (h : c ≠ '/') (here : Place) (t : Text) :
    origin here (c :: t) = (here, Text.splitOn '/' (c :: t)) := by
  unfold origin
  split
  · next heq => exact absurd (List.cons.inj heq).1 h
  · rfl

/-- A path joined with a name has the parts of the path, but for an empty one at the end, and the
name. -/
lemma origin_join {name : Text} (hname : IsName name) (here : Place) {path : Text} (hpath : path ≠ []) :
    ∃ parts, origin here (Path.join path name) = ((origin here path).1, parts ++ [name]) ∧
      ((origin here path).2 = parts ∨ (origin here path).2 = parts ++ [[]]) := by
  obtain ⟨c, rest, rfl⟩ := List.exists_cons_of_ne_nil hpath
  rw [Path.join, hname.isRelative]
  by_cases hlast : (c :: rest).getLast? = some '/'
  · rw [if_neg (by simp), if_pos (by simp [hlast])]
    by_cases hc : c = '/'
    · subst hc
      have hrest : rest = [] ∨ rest.getLast? = some '/' := by
        cases rest with
        | nil => exact .inl rfl
        | cons d rest => exact .inr (by simpa using hlast)
      obtain ⟨parts, hjoined, hparts⟩ := splitOn_append_of_ends hname.whole hrest
      refine ⟨parts, ?_, .inr hparts⟩
      rw [List.cons_append, origin_slash, origin_slash, hjoined]
    · obtain ⟨parts, hjoined, hparts⟩ := splitOn_append_of_ends hname.whole (.inr hlast)
      refine ⟨parts, ?_, .inr ?_⟩
      · rw [List.cons_append, origin_of_ne hc, origin_of_ne hc, ← List.cons_append, hjoined]
      · rw [origin_of_ne hc, hparts]
  · rw [if_neg (by simp), if_neg (by simpa using hlast)]
    by_cases hc : c = '/'
    · subst hc
      refine ⟨Text.splitOn '/' rest, ?_, .inl rfl⟩
      rw [List.cons_append, origin_slash, origin_slash, Text.splitOn_append,
        Text.splitOn_of_not_mem hname.whole]
    · refine ⟨Text.splitOn '/' (c :: rest), ?_, .inl ?_⟩
      · rw [List.cons_append, origin_of_ne hc, origin_of_ne hc, ← List.cons_append, Text.splitOn_append,
          Text.splitOn_of_not_mem hname.whole]
      · rw [origin_of_ne hc]

/-! ### Names of directories -/

section Names

variable {t t' : FileTree} {path name : Text} {place : Place}

lemma resolve_eq (h : checkPath path = .ok ()) : t.resolve path =
    walkThrough t.root true (mostLinks + 1) (origin t.working path).1 (origin t.working path).2 := by
  rw [resolve, h]
  rfl

lemma checkPath_of_resolve {target : Target} (h : t.resolve path = .ok target) :
    checkPath path = .ok () := by
  cases hcheck : checkPath path with
  | error fault =>
    rw [resolve, hcheck] at h
    cases h
  | ok u => rfl

lemma checkPath_eq_ok_iff : checkPath path = .ok () ↔
    '\x00' ∉ path ∧ path ≠ [] ∧ Utf8.size path ≤ longestPath := by
  unfold checkPath
  split_ifs with hnull hempty hlong
  · simp_all
  · simp_all
  · simp_all
  · simp_all

lemma ne_nil_of_checkPath (h : checkPath path = .ok ()) : path ≠ [] := by
  rintro rfl
  cases h

lemma Names.isDirectory (h : t.Names path place) : ∃ es, t.root.get? place = some (.directory es) := by
  obtain ⟨es, hes⟩ := h
  have hcheck := checkPath_of_resolve hes
  rw [resolve_eq hcheck] at hes
  exact ⟨es, (exists_walks hes).2⟩

/-- A path still names a directory in a tree that has the same directories and links. -/
theorem Names.keep (h : t.Names path place) (keeps : KeepsWays t.root t'.root)
    (working : t'.working = t.working) : t'.Names path place := by
  obtain ⟨es, hes⟩ := h
  have hcheck := checkPath_of_resolve hes
  rw [resolve_eq hcheck] at hes
  obtain ⟨⟨left, walks⟩, hplace⟩ := exists_walks hes
  have hkind := keeps place .empty (Node.kindAt?_eq_directory.2 ⟨es, hplace⟩) rfl
  obtain ⟨es', hes'⟩ := Node.kindAt?_eq_directory.1 hkind
  refine ⟨es', ?_⟩
  rw [resolve_eq hcheck, working]
  exact (walks.keep keeps).found_directory hes'

/-- The walk to a directory, and on to whatever parts follow those of its path. -/
lemma Names.exists_walks (h : t.Names path place) (hname : IsName name) :
    ∃ parts left, origin t.working (Path.join path name) =
        ((origin t.working path).1, parts ++ [name]) ∧
      ∀ more, Walks t.root ⟨mostLinks + 1, (origin t.working path).1, parts ++ more⟩
        ⟨left + 1, place, more⟩ := by
  obtain ⟨es, hes⟩ := h
  have hcheck := checkPath_of_resolve hes
  rw [resolve_eq hcheck] at hes
  obtain ⟨⟨left, walks⟩, -⟩ := FileTree.exists_walks hes
  obtain ⟨parts, hjoin, hparts⟩ :=
    origin_join hname t.working (ne_nil_of_checkPath hcheck)
  refine ⟨parts, left, hjoin, ?_⟩
  intro more
  rcases hparts with hparts | hparts
  · rw [hparts] at walks
    exact walks.append more
  · rw [hparts] at walks
    exact walks.dropIdle.append more

/-- What a name means in the directory at a place where it is no link. -/
def lookIn (root : Node) (place : Place) (name : Text) : Except Fault Target :=
  if longestName < Utf8.size name then .error .nameTooLong
  else match root.get? (place ++ [name]) with
    | none => .ok (.absent (place ++ [name]) false)
    | some node => .ok (.found (place ++ [name]) node)

lemma found_of_lookIn {root node : Node} {found : Place}
    (h : lookIn root place name = .ok (.found found node)) :
    found = place ++ [name] ∧ root.get? (place ++ [name]) = some node := by
  unfold lookIn at h
  split at h
  · cases h
  · split at h
    · cases h
    · next hnode =>
      cases h
      exact ⟨rfl, hnode⟩

lemma absent_of_lookIn {root : Node} {found : Place} {asDirectory : Bool}
    (h : lookIn root place name = .ok (.absent found asDirectory)) :
    found = place ++ [name] ∧ root.get? (place ++ [name]) = none := by
  unfold lookIn at h
  split at h
  · cases h
  · split at h
    · next hnone =>
      cases h
      exact ⟨rfl, hnone⟩
    · cases h

/-- **A path joined with a name** leads to the entry of that name. -/
theorem Names.resolve_join (h : t.Names path place) (hname : IsName name)
    (hcheck : checkPath (Path.join path name) = .ok ())
    (hlink : ∀ target, t.root.get? (place ++ [name]) ≠ some (.link target)) :
    t.resolve (Path.join path name) = lookIn t.root place name := by
  obtain ⟨parts, left, hjoin, walks⟩ := h.exists_walks hname
  have hfound := (walks [name]).found_eq
  rw [resolve_eq hcheck, hjoin]
  refine hfound.trans ?_
  rw [lookIn]
  split
  · next hlong => exact found_of_long hname.busy hname.named hlong
  next hshort =>
  rw [found_of_busy hname.busy hname.named (Nat.not_lt.1 hshort)]
  rcases hnode : t.root.get? (place ++ [name]) with _ | (content | target | es)
  · rfl
  · rfl
  · exact absurd hnode (hlink target)
  · simp [Walker.found, walkThrough, walk, hnode]

/-- What is entered at a path whose last part follows parts that lead to a directory. -/
lemma entry_of_walks {start middle : Place} {init idle : List Text} {name : Text} {between : Nat}
    (hcheck : checkPath path = .ok ()) (horigin : origin t.working path = (start, init ++ name :: idle))
    (hnamed : (init ++ name :: idle).rdropWhile (·.isEmpty) = init ++ [name])
    (walks : Walks t.root ⟨mostLinks + 1, start, init⟩ ⟨between + 1, middle, []⟩)
    (directory : t.root.kindAt? middle = some .empty) : t.entry path =
      if name = ['.'] ∨ name = ['.', '.'] then .error .busy
      else if longestName < Utf8.size name then .error .nameTooLong
      else .ok ⟨middle, name, decide ((init ++ [name]).length < (init ++ name :: idle).length)⟩ := by
  obtain ⟨es, hes⟩ := Node.kindAt?_eq_directory.1 directory
  have hfound : walkThrough t.root true (mostLinks + 1) start (init ++ [[]]) =
      .ok (.found middle (.directory es)) :=
    (walks.append [[]]).found_eq.trans (by simp [Walker.found, walkThrough, walk, Path.isIdle, hes])
  have hlast : ((init ++ name :: idle).reverse.dropWhile (·.isEmpty)).reverse = init ++ [name] := hnamed
  rw [entry, hcheck, horigin]
  dsimp only
  rw [hlast, List.getLast?_concat, List.dropLast_concat, hfound]
  rfl

theorem Names.entry_join (h : t.Names path place) (hname : IsName name)
    (hcheck : checkPath (Path.join path name) = .ok ()) :
    t.entry (Path.join path name) =
      if longestName < Utf8.size name then .error .nameTooLong else .ok ⟨place, name, false⟩ := by
  obtain ⟨parts, left, hjoin, walks⟩ := h.exists_walks hname
  have hlast : (parts ++ [name]).rdropWhile (·.isEmpty) = parts ++ [name] :=
    List.rdropWhile_concat_neg _ _ _ (by simp [hname.ne_nil])
  have hbusy : ¬(name = ['.'] ∨ name = ['.', '.']) := by
    rintro (rfl | rfl)
    · cases hname.busy
    · exact hname.named rfl
  have hparts := walks []
  rw [List.append_nil] at hparts
  rw [entry_of_walks hcheck hjoin hlast hparts (Node.kindAt?_eq_directory.2 h.isDirectory), if_neg hbusy,
    decide_eq_false (Nat.lt_irrefl _)]

lemma checkPath_of_entry {e : Entry} (h : t.entry path = .ok e) : checkPath path = .ok () := by
  cases hcheck : checkPath path with
  | error fault =>
    rw [entry, hcheck] at h
    cases h
  | ok u => rfl

end Names

end Custodian.FileTree
