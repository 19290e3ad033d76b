import Custodian.Proofs.FileTree.Name
import Custodian.Proofs.Path.Segments

/-!
# Extensions

The extension of a path is what follows the last dot of its last segment, if that segment is a name and the dot
is not its first character (`extension?_of_name`, `extension?_eq_none_iff`). A path that is joined with a name
keeps everything before the name when it gets another extension (`withExtension_join`): what changes is what
follows the last dot of the name (`stem_append`).
-/

namespace Custodian.Path

open FileTree

/-- The stem of a name that ends in an extension. -/
lemma stem_append {name extension : Text} (hname : name ≠ []) (undotted : '.' ∉ extension) :
    stem (name ++ '.' :: extension) = name := by
  obtain ⟨c, name, rfl⟩ := List.exists_cons_of_ne_nil hname
  rw [stem, Text.cutLast?_append _ undotted]

/-! ### The extension of a path -/

section Extension

variable {path name extension : Text}

lemma extension?_of_name (h : fileName? path = some (name ++ '.' :: extension)) (hname : name ≠ [])
    (undotted : '.' ∉ extension) : extension? path = some extension := by
  obtain ⟨c, name, rfl⟩ := List.exists_cons_of_ne_nil hname
  rw [extension?, h, Option.bind_some, Text.cutLast?_append _ undotted]

/-- Paths whose names have no dot behind the first character have no extension, and no others. -/
lemma extension?_eq_none_iff :
    extension? path = none ↔ ∀ name ∈ fileName? path, '.' ∉ name.tail := by
  rcases hfile : fileName? path with _ | name
  · simp [extension?, hfile]
  by_cases hdot : '.' ∈ name
  · obtain ⟨stem, extension, rfl, undotted⟩ := Text.exists_eq_append_of_mem hdot
    rcases stem with _ | ⟨c, stem⟩
    · have hcut := Text.cutLast?_append [] undotted
      rw [List.nil_append] at hcut
      simp [extension?, hfile, hcut, undotted]
    · simp [extension?_of_name hfile (List.cons_ne_nil _ _) undotted]
  · have htail : '.' ∉ name.tail := fun h => hdot (List.mem_of_mem_tail h)
    simp [extension?, hfile, Text.cutLast?_of_not_mem hdot, htail]

end Extension

/-! ### Another extension -/

/-- What stands before a name in a path: nothing, or it ends at a separator. -/
def EndsOpen (before : Text) : Prop :=
  before = [] ∨ before.getLast? = some '/'

lemma EndsOpen.tail {c : Char} {before : Text} (h : EndsOpen (c :: before)) : EndsOpen before := by
  rcases h with hnil | hlast
  · cases hnil
  · cases before with
    | nil => exact .inl rfl
    | cons d before => exact .inr (by simpa using hlast)

/-- A name is the segment that follows those before it. -/
lemma EndsOpen.segments_append {before name : Text} (h : EndsOpen before) (hname : IsName name) :
    segments (before ++ name) = segments before ++ [name] := by
  have hsegments : segments name = [name] := by
    rw [segments_of_not_mem hname.whole]
    simp [hname.busy]
  rcases h with rfl | hlast
  · rw [List.nil_append, hsegments, segments_nil, List.nil_append]
  · obtain ⟨before, rfl⟩ := List.getLast?_eq_some_iff.1 hlast
    rw [List.append_assoc, List.singleton_append, segments_append_slash, segments_concat_slash, hsegments]

/-- Joining puts the same before every name. -/
lemma exists_join_eq (directory : Text) :
    ∃ before, EndsOpen before ∧ ∀ name, isAbsolute name = false → join directory name = before ++ name := by
  by_cases hopen : directory = [] ∨ directory.getLast? = some '/'
  · refine ⟨directory, hopen, ?_⟩
    intro name relative
    rw [join, relative, if_neg (by simp), if_pos (by simpa using hopen)]
  · refine ⟨directory ++ ['/'], .inr (by simp), ?_⟩
    intro name relative
    rw [join, relative, if_neg (by simp), if_neg (by simpa using hopen), List.append_assoc,
      List.singleton_append]

/-- A last part after others that leave it open. -/
lemma joinParts_concat {t : Text} {parts : List Text} (h : Text.splitOn '/' t = parts ++ [[]]) (part : Text) :
    joinParts (parts ++ [part]) = t ++ part := by
  have hjoin := Text.join_splitOn '/' t
  rw [h] at hjoin
  rw [joinParts, Text.join_concat, hjoin]

/-- A path that ends in a name, and what it is with another part in its place. -/
lemma exists_split_append {before name : Text} (hopen : EndsOpen before) (hname : IsName name) :
    ∃ lead parts, split (before ++ name) = (lead, parts ++ [name]) ∧
      ∀ part, lead.text ++ joinParts (parts ++ [part]) = before ++ part := by
  generalize hpath : before ++ name = path
  fun_cases split path with
  | case1 rest =>
    rcases before with _ | ⟨c, before⟩
    · obtain rfl : name = '/' :: rest := hpath
      exact absurd List.mem_cons_self hname.whole
    obtain ⟨rfl, rfl⟩ := List.cons.inj hpath
    obtain ⟨parts, hjoined, hparts⟩ := splitOn_append_of_ends hname.whole hopen.tail
    refine ⟨.root, parts, congrArg _ hjoined, ?_⟩
    intro part
    rw [joinParts_concat hparts]
    rfl
  | case2 =>
    rcases before with _ | ⟨c, before⟩
    · obtain rfl : name = ['.'] := hpath
      cases hname.busy
    · obtain ⟨-, hnil⟩ := List.cons.inj hpath
      exact absurd (List.append_eq_nil_iff.1 hnil).2 hname.ne_nil
  | case3 rest =>
    rcases before with _ | ⟨c, _ | ⟨d, before⟩⟩
    · obtain rfl : name = '.' :: '/' :: rest := hpath
      exact absurd (List.mem_cons_of_mem _ List.mem_cons_self) hname.whole
    · obtain ⟨-, rfl⟩ := List.cons.inj hpath
      exact absurd List.mem_cons_self hname.whole
    obtain ⟨rfl, hrest⟩ := List.cons.inj hpath
    obtain ⟨rfl, rfl⟩ := List.cons.inj hrest
    obtain ⟨parts, hjoined, hparts⟩ := splitOn_append_of_ends hname.whole hopen.tail.tail
    -- the slash behind the dot begins the text of the parts
    have hslashed : Text.splitOn '/' ('/' :: before) = [] :: parts ++ [[]] := by
      rw [Text.splitOn, if_pos rfl, hparts]
      rfl
    refine ⟨.here, [] :: parts, congrArg (fun parts => (Lead.here, [] :: parts)) hjoined, ?_⟩
    intro part
    rw [joinParts_concat hslashed]
    rfl
  | case4 =>
    obtain ⟨parts, hjoined, hparts⟩ := splitOn_append_of_ends hname.whole hopen
    rw [hpath] at hjoined
    refine ⟨.none, parts, congrArg _ hjoined, ?_⟩
    intro part
    rw [joinParts_concat hparts]
    rfl

/-- **Another extension** changes nothing before the name. -/
theorem withExtension_join {name extension : Text} (hname : IsName name) (hextension : extension ≠ [])
    (relative : isAbsolute (stem name ++ '.' :: extension) = false) (directory : Text) :
    withExtension (join directory name) extension = join directory (stem name ++ '.' :: extension) := by
  obtain ⟨before, hopen, hjoin⟩ := exists_join_eq directory
  obtain ⟨lead, parts, hsplit, hparts⟩ := exists_split_append hopen hname
  have hnamed : dropIdleEnd (parts ++ [name]) = parts ++ [name] := by
    simp [dropIdleEnd, hname.busy]
  rw [hjoin _ hname.isRelative, hjoin _ relative, withExtension, hsplit]
  dsimp only
  rw [hnamed, List.getLast?_concat, List.dropLast_concat]
  dsimp only
  rw [if_neg hname.named, if_neg hextension, hparts]

end Custodian.Path
