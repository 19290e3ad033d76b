import Custodian.Proofs.FileTree.Present
import Custodian.Proofs.Text.Utf8

/-!
# Where a file is reached

A path joined with a name leads to a file only through the directory that the path names
(`exists_names_of_readFile`, `exists_names_of_writeFile`). So the files of a directory are reached through it
or not at all.

The empty path names nothing, but joined with a name it leads to an entry of the working directory. The dot
names this directory, and leads to the same entries (`readFile_orHere`, `writeFile_orHere`, `rename_orHere`).
-/

namespace Custodian.FileTree

variable {t t' : FileTree} {path name : Text} {place : Place}

/-! ### Through a directory -/

/-- Parts that end with a name lead to an entry of that name, in a place to which the others lead. -/
theorem exists_walks_of_concat (hname : IsName name) {root : Node} {links : Nat} {here : Place}
    {parts : List Text} {target : Target}
    (h : walkThrough root true links here (parts ++ [name]) = .ok target) :
    ∃ left place, Walks root ⟨links, here, parts⟩ ⟨left + 1, place, []⟩ ∧
      (root.get? (place ++ [name]) = none → target = .absent (place ++ [name]) false) := by
  obtain ⟨⟨rest, there, left⟩, walks, halts⟩ := exists_halts root ⟨links, here, parts⟩
  have hfound : Walker.found root ⟨rest, there, left ++ [name]⟩ = .ok target :=
    (Walks.found_eq (walks.append [name])).symm.trans h
  rcases rest with _ | rest
  · cases hfound
  rcases halts.cases with hzero | rfl | ⟨other, more, rfl, blocked⟩
  · cases hzero
  · refine ⟨rest, there, walks, ?_⟩
    intro hnone
    by_cases hshort : Utf8.size name ≤ longestName
    · rw [List.nil_append, found_of_busy hname.busy hname.named hshort, hnone] at hfound
      cases hfound
      rfl
    · rw [List.nil_append, found_of_long hname.busy hname.named (Nat.not_le.1 hshort)] at hfound
      cases hfound
  · -- behind a name that leads nowhere there is no other name
    rw [List.cons_append] at hfound
    rcases blocked.found_cases (more ++ [name]) with ⟨fault, hb⟩ | ⟨-, hall, -, -⟩ | ⟨content, -, hnil, -⟩
    · rw [hb] at hfound
      cases hfound
    · simp [hname.ne_nil] at hall
    · simp at hnil

/-- The path of a directory can be asked for if it can be asked for an entry. -/
lemma checkPath_of_join (hname : IsName name) (hpath : path ≠ [])
    (h : checkPath (Path.join path name) = .ok ()) : checkPath path = .ok () := by
  obtain ⟨more, hmore⟩ : path <+: Path.join path name := by
    rw [Path.join, hname.isRelative, if_neg (by simp)]
    split_ifs
    · exact List.prefix_append _ _
    · exact List.prefix_append _ _
  rw [checkPath_eq_ok_iff] at h ⊢
  obtain ⟨hnull, -, hsize⟩ := h
  rw [← hmore, Utf8.size_append] at hsize
  refine ⟨fun hmem => hnull ?_, hpath, by omega⟩
  rw [← hmore]
  exact List.mem_append_left _ hmem

/-- **An entry is reached** through the directory that the path names, if there is one. -/
theorem exists_names_of_resolve_join (hname : IsName name) (hpath : path ≠ []) {target : Target}
    (h : t.resolve (Path.join path name) = .ok target) :
    ∃ place, (t.root.kindAt? place = some .empty → t.Names path place) ∧
      (t.root.get? (place ++ [name]) = none → target = .absent (place ++ [name]) false) := by
  have hcheck := checkPath_of_resolve h
  have hpathChecked := checkPath_of_join hname hpath hcheck
  obtain ⟨parts, hjoin, hparts⟩ := origin_join hname t.working hpath
  rw [resolve_eq hcheck, hjoin] at h
  obtain ⟨left, place, walks, hplace⟩ := exists_walks_of_concat hname h
  refine ⟨place, ?_, hplace⟩
  intro hkind
  obtain ⟨es, hes⟩ := Node.kindAt?_eq_directory.1 hkind
  refine ⟨es, ?_⟩
  rw [resolve_eq hpathChecked]
  rcases hparts with hparts | hparts <;> rw [hparts]
  · exact walks.found_directory hes
  · have hidle : Walks t.root ⟨mostLinks + 1, (origin t.working path).1, parts ++ [[]]⟩
        ⟨left + 1, place, []⟩ :=
      (walks.append [[]]).tail (.idle rfl)
    exact hidle.found_directory hes

/-- A file is read through the directory that the path names. -/
theorem exists_names_of_readFile (hname : IsName name) (hpath : path ≠ []) {bytes : Bytes}
    (h : t.readFile (Path.join path name) = .ok bytes) : ∃ place, t.Names path place := by
  unfold readFile at h
  rcases hresolve : t.resolve (Path.join path name) with fault | target <;> rw [hresolve] at h
  · cases h
  obtain ⟨place, hnames, hnone⟩ := exists_names_of_resolve_join hname hpath hresolve
  refine ⟨place, hnames ?_⟩
  rcases hnode : t.root.get? (place ++ [name]) with _ | node
  · rw [hnone hnode] at h
    cases h
  · exact Node.kindAt?_eq_directory.2 (Node.exists_directory_of_get? hnode)

/-- Something can be put only into a directory. -/
lemma directory_of_put {node : Node} (h : t.put (place ++ [name]) node = .ok t') :
    t.root.kindAt? place = some .empty := by
  have hput := (put_eq_ok_iff.1 h).1
  have hplaced := Node.get?_of_put? hput []
  rw [List.append_nil, Node.get?_nil] at hplaced
  have habove : ¬place ++ [name] <+: place := by
    intro hprefix
    have hlength := hprefix.length_le
    rw [List.length_append, List.length_singleton] at hlength
    omega
  rw [← Node.kindAt?_of_put? hput habove, Node.kindAt?_eq_directory]
  exact Node.exists_directory_of_get? hplaced

/-- A file is written through the directory that the path names. -/
theorem exists_names_of_writeFile (hname : IsName name) (hpath : path ≠ []) {bytes : Bytes}
    (h : t.writeFile (Path.join path name) bytes = .ok t') : ∃ place, t.Names path place := by
  obtain ⟨found, hput, hfound⟩ := writeFile_cases h
  obtain ⟨target, hresolve, hcases⟩ : ∃ target, t.resolve (Path.join path name) = .ok target ∧
      ((∃ old, target = .found found (.file old)) ∨ target = .absent found false) := by
    rcases hfound with ⟨old, hold⟩ | habsent
    · exact ⟨_, hold, .inl ⟨old, rfl⟩⟩
    · exact ⟨_, habsent, .inr rfl⟩
  obtain ⟨place, hnames, hnone⟩ := exists_names_of_resolve_join hname hpath hresolve
  refine ⟨place, hnames ?_⟩
  rcases hnode : t.root.get? (place ++ [name]) with _ | node
  · -- nothing is there, and so the file is put there
    rcases hcases with ⟨old, rfl⟩ | rfl
    · cases hnone hnode
    · cases hnone hnode
      exact directory_of_put hput
  · exact Node.kindAt?_eq_directory.2 (Node.exists_directory_of_get? hnode)

/-! ### In the working directory -/

/-- A path, or the dot in place of the empty path. -/
def orHere (path : Text) : Text :=
  if path = [] then ['.'] else path

lemma orHere_ne_nil (path : Text) : orHere path ≠ [] := by
  unfold orHere
  split
  · exact List.cons_ne_nil _ _
  · assumption

lemma join_nil (hname : IsName name) : Path.join [] name = name := by
  rw [Path.join, hname.isRelative]
  rfl

lemma join_here (hname : IsName name) : Path.join ['.'] name = '.' :: '/' :: name := by
  rw [Path.join, hname.isRelative]
  rfl

lemma origin_of_isName (hname : IsName name) (here : Place) : origin here name = (here, [name]) := by
  obtain ⟨c, rest, rfl⟩ := List.exists_cons_of_ne_nil hname.ne_nil
  have hc : c ≠ '/' := by
    rintro rfl
    exact hname.whole List.mem_cons_self
  rw [origin_of_ne hc, Text.splitOn_of_not_mem hname.whole]

lemma origin_of_here (hname : IsName name) (here : Place) :
    origin here ('.' :: '/' :: name) = (here, [['.'], name]) := by
  have hsplit : Text.splitOn '/' ('.' :: '/' :: name) = ['.'] :: Text.splitOn '/' name :=
    Text.splitOn_append '/' ['.'] name
  rw [origin_of_ne (by decide), hsplit, Text.splitOn_of_not_mem hname.whole]

lemma size_here (name : Text) : Utf8.size ('.' :: '/' :: name) = Utf8.size name + 2 := by
  have hsize := Utf8.size_append ['.', '/'] name
  have hdot : Utf8.size ['.', '/'] = 2 := by decide
  rw [List.cons_append, List.singleton_append] at hsize
  omega

/-- A path with a name that is too long is not followed, even if the path is not too long. -/
lemma resolve_of_nameTooLong (hnull : '\x00' ∉ path) (hne : path ≠ [])
    (h : walkThrough t.root true (mostLinks + 1) (origin t.working path).1 (origin t.working path).2 =
      .error .nameTooLong) : t.resolve path = .error .nameTooLong := by
  by_cases hsize : Utf8.size path ≤ longestPath
  · rw [resolve_eq (checkPath_eq_ok_iff.2 ⟨hnull, hne, hsize⟩), h]
  · rw [resolve, checkPath, if_neg (by simpa using hnull), if_neg (by simpa using hne),
      if_pos (Nat.not_le.1 hsize)]
    rfl

/-- The dot leads nowhere else. -/
lemma walkThrough_here (root : Node) (here : Place) (parts : List Text) :
    walkThrough root true (mostLinks + 1) here (['.'] :: parts) =
      walkThrough root true (mostLinks + 1) here parts := by
  simp only [walkThrough]
  rw [walk, if_pos (by decide)]

/-- A name leads where it leads after the dot. -/
lemma resolve_here (hname : IsName name) (t : FileTree) :
    t.resolve ('.' :: '/' :: name) = t.resolve name := by
  have hsize := size_here name
  by_cases hbad : '\x00' ∈ name
  · rw [resolve, resolve, checkPath, checkPath, if_pos (by simpa using hbad), if_pos (by simpa using hbad)]
    rfl
  have hbad' : '\x00' ∉ '.' :: '/' :: name := by simpa using hbad
  have hsame : walkThrough t.root true (mostLinks + 1) (origin t.working ('.' :: '/' :: name)).1
        (origin t.working ('.' :: '/' :: name)).2 =
      walkThrough t.root true (mostLinks + 1) (origin t.working name).1 (origin t.working name).2 := by
    rw [origin_of_here hname, origin_of_isName hname, walkThrough_here]
  by_cases hshort : Utf8.size name ≤ longestName
  · have hlong : longestName + 2 ≤ longestPath := by decide
    rw [resolve_eq (checkPath_eq_ok_iff.2 ⟨hbad, hname.ne_nil, by omega⟩),
      resolve_eq (checkPath_eq_ok_iff.2 ⟨hbad', List.cons_ne_nil _ _, by omega⟩), hsame]
  · -- the name is too long, and so may be the one path or both of them
    have hlong : walkThrough t.root true (mostLinks + 1) (origin t.working name).1
        (origin t.working name).2 = .error .nameTooLong := by
      rw [origin_of_isName hname]
      exact found_of_long hname.busy hname.named (Nat.not_le.1 hshort)
    rw [resolve_of_nameTooLong hbad hname.ne_nil hlong,
      resolve_of_nameTooLong hbad' (List.cons_ne_nil _ _) (hsame.trans hlong)]

/-- A name is entered where it is entered after the dot. -/
lemma entry_here (hname : IsName name) {e : Entry} (h : t.entry name = .ok e) :
    t.entry ('.' :: '/' :: name) = .ok e := by
  have hsize := size_here name
  have hlong : longestName + 2 ≤ longestPath := by decide
  have hlast : ([name].reverse.dropWhile (·.isEmpty)).reverse = [name] := by simp [hname.ne_nil]
  have hlast' : ([['.'], name].reverse.dropWhile (·.isEmpty)).reverse = [['.'], name] := by
    simp [hname.ne_nil]
  obtain ⟨hnull, -, -⟩ := checkPath_eq_ok_iff.1 (checkPath_of_entry h)
  rw [entry, checkPath_of_entry h, origin_of_isName hname] at h
  dsimp only [bind, Except.bind] at h
  rw [hlast] at h
  dsimp only [List.getLast?_singleton] at h
  rcases hwalk : walkThrough t.root true (mostLinks + 1) t.working ([name].dropLast ++ [[]]) with
    fault | ⟨place, node⟩ | ⟨place, asDirectory⟩ <;> rw [hwalk] at h
  · cases h
  · dsimp only at h
    split at h
    · cases h
    split at h
    · cases h
    next hdots hshort =>
    have hcheck : checkPath ('.' :: '/' :: name) = .ok () :=
      checkPath_eq_ok_iff.2 ⟨by simpa using hnull, List.cons_ne_nil _ _, by omega⟩
    rw [entry, hcheck, origin_of_here hname]
    dsimp only [bind, Except.bind]
    rw [hlast']
    dsimp only [List.getLast?, List.getLast]
    rw [List.dropLast_cons_cons, List.cons_append, walkThrough_here, hwalk]
    dsimp only
    rw [if_neg hdots, if_neg hshort]
    exact h
  · cases h

/-! A path of a store may be empty, and then the dot stands for it. -/

lemma resolve_orHere (hname : IsName name) (t : FileTree) (path : Text) :
    t.resolve (Path.join (orHere path) name) = t.resolve (Path.join path name) := by
  unfold orHere
  split
  · next hnil => rw [hnil, join_here hname, join_nil hname, resolve_here hname]
  · rfl

lemma readFile_orHere (hname : IsName name) (t : FileTree) (path : Text) :
    t.readFile (Path.join (orHere path) name) = t.readFile (Path.join path name) := by
  rw [readFile, readFile, resolve_orHere hname]

lemma writeFile_orHere (hname : IsName name) (t : FileTree) (path : Text) (bytes : Bytes) :
    t.writeFile (Path.join (orHere path) name) bytes = t.writeFile (Path.join path name) bytes := by
  rw [writeFile, writeFile, resolve_orHere hname]

lemma entry_orHere (hname : IsName name) {e : Entry} (h : t.entry (Path.join path name) = .ok e) :
    t.entry (Path.join (orHere path) name) = .ok e := by
  unfold orHere
  split
  · next hnil =>
    rw [hnil, join_nil hname] at h
    rw [join_here hname]
    exact entry_here hname h
  · exact h

lemma rename_orHere {source target : Text} (hsource : IsName source) (htarget : IsName target)
    (h : t.rename (Path.join path source) (Path.join path target) = .ok t') :
    t.rename (Path.join (orHere path) source) (Path.join (orHere path) target) = .ok t' := by
  obtain ⟨a, b, -, ha, hb, -⟩ := rename_cases h
  rw [rename, ha, hb] at h
  rw [rename, entry_orHere hsource ha, entry_orHere htarget hb]
  exact h

end Custodian.FileTree
