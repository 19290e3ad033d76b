import Custodian.Proofs.FileTree.Made
import Custodian.Proofs.Path.Parent

/-!
# Chains of directories

A tree in which each directory holds nothing but the next one. Where there is such a chain, an absolute path
without two dots names a directory of it (`Spells.exists_names`), or its next directory can be made
(`Spells.makeIfMissing_made`), or directories are missing before it (`Spells.makeIfMissing_missing`).

* `makeDirectories_chain`: making a directory with those around it makes the chain longer, to the segments of
  its path.
* `Names.spells`: a path that names a directory has no segment that is too long.
-/

namespace Custodian

namespace Node

/-- Directories one in the other. -/
def chain : List Text → Node
  | [] => .empty
  | name :: names => .directory [(name, chain names)]

variable {names below : List Text} {name : Text}

lemma get?_chain (names below : List Text) : (chain (names ++ below)).get? names = some (chain below) := by
  induction names with
  | nil => rw [List.nil_append, get?_nil]
  | cons first names ih => rw [List.cons_append, chain, get?_cons, Table.get?, if_pos rfl, Option.bind_some, ih]

lemma exists_chain_eq (names : List Text) : ∃ es, chain names = .directory es := by
  cases names with
  | nil => exact ⟨[], rfl⟩
  | cons name names => exact ⟨_, rfl⟩

lemma kindAt?_chain (h : names <+: below) : (chain below).kindAt? names = some .empty := by
  obtain ⟨more, rfl⟩ := h
  obtain ⟨es, hes⟩ := exists_chain_eq more
  rw [kindAt?_eq_directory]
  exact ⟨es, by rw [get?_chain, hes]⟩

/-- Nothing is behind the end of a chain. -/
lemma get?_chain_end (names : List Text) (name : Text) : (chain names).get? (names ++ [name]) = none := by
  have hend := get?_chain names []
  rw [List.append_nil] at hend
  rw [get?_append, hend]
  rfl

/-- A directory is put at the end of a chain. -/
lemma put?_chain (names : List Text) (name : Text) :
    put? .empty (names ++ [name]) (chain names) = some (chain (names ++ [name])) := by
  induction names with
  | nil => rfl
  | cons first names ih =>
    obtain ⟨next, more, hmore⟩ :=
      List.exists_cons_of_ne_nil (List.append_ne_nil_of_right_ne_nil names (List.cons_ne_nil name []))
    rw [hmore] at ih
    rw [List.cons_append, hmore, chain, chain, put?]
    simp only [Table.get?, if_pos]
    rw [ih, Option.map_some, Table.insert, if_neg (List.lt_irrefl first), if_pos rfl]

/-- The places of a chain are its beginnings. -/
lemma places_chain (names : List Text) : (chain names).places.map (·.1) = names.inits.tail := by
  induction names with
  | nil => rfl
  | cons name names ih =>
    have hinits : (name :: names).inits.tail = [name] :: (names.inits.tail).map (name :: ·) := by
      cases names <;> simp
    rw [hinits, ← ih, chain, places, placesOf, placesOf, List.append_nil, List.map_cons, List.map_map,
      List.map_map]
    rfl

end Node

namespace FileTree

open Relation

/-- The tree that is a chain of directories. -/
def chain (names : List Text) : FileTree where
  root := .chain names
  working := []

/-- A text that a directory may be called by. -/
structure IsPlainName (name : Text) : Prop where
  named : name ≠ ['.', '.']
  short : Utf8.size name ≤ longestName

/-- A path that can be asked for and leads from the root down the names. -/
structure Spells (path : Text) (names : List Text) : Prop where
  absolute : Path.isAbsolute path = true
  spelled : Path.segments path = names
  plain : ∀ name ∈ names, IsPlainName name
  valid : checkPath path = .ok ()

variable {t : FileTree} {path : Text} {names more : List Text} {name : Text}

lemma busy_of_mem_segments (h : name ∈ Path.segments path) : Path.isIdle name = false := by
  have hbusy := (List.mem_filter.1 h).2
  simpa using hbusy

lemma Spells.origin_eq (h : Spells path names) (here : Place) :
    origin here path = ([], (origin here path).2) ∧ (origin here path).2.filter (!Path.isIdle ·) = names := by
  obtain ⟨rest, rfl⟩ := Path.exists_of_isAbsolute h.absolute
  refine ⟨rfl, ?_⟩
  rw [← h.spelled, Path.segments_cons_slash]
  rfl

/-! ### Walking down -/

/-- Parts lead down the names among them, if there are directories. -/
lemma walks_down {root : Node} (links : Nat) (here : Place) {parts : List Text}
    (plain : ∀ part ∈ parts.filter (!Path.isIdle ·), IsPlainName part)
    (there : root.kindAt? (here ++ parts.filter (!Path.isIdle ·)) = some .empty) :
    Walks root ⟨links + 1, here, parts⟩ ⟨links + 1, here ++ parts.filter (!Path.isIdle ·), []⟩ := by
  induction parts generalizing here with
  | nil =>
    rw [List.filter_nil, List.append_nil]
  | cons part parts ih =>
    by_cases hidle : Path.isIdle part = true
    · rw [List.filter_cons_of_neg (by simp [hidle])] at plain there ⊢
      exact .head (.idle hidle) (ih here plain there)
    · have busy : Path.isIdle part = false := by simpa using hidle
      rw [List.filter_cons_of_pos (by simp [busy])] at plain there ⊢
      obtain ⟨hpart, hparts⟩ := List.forall_mem_cons.1 plain
      rw [List.append_cons] at there ⊢
      have hdirectory : root.kindAt? (here ++ [part]) = some .empty :=
        Node.kindAt?_of_above there (List.prefix_append _ _)
      exact .head (.down busy hpart.named hpart.short hdirectory) (ih _ hparts there)

/-- **A path whose names are there** names a directory. -/
theorem Spells.exists_names (h : Spells path names) (there : t.root.kindAt? names = some .empty) :
    t.Names path names := by
  obtain ⟨horigin, hnames⟩ := h.origin_eq t.working
  have plain := h.plain
  rw [← hnames] at plain there ⊢
  obtain ⟨es, hes⟩ := Node.kindAt?_eq_directory.1 there
  have walks := walks_down mostLinks [] plain there
  refine ⟨es, ?_⟩
  rw [resolve_eq h.valid, horigin]
  exact walks.found_directory hes

/-- The last part of a path whose end says something is its last name. -/
lemma Spells.exists_origin (h : Spells path (names ++ [name])) (tight : Path.IsTight path) (here : Place) :
    ∃ init, origin here path = ([], init ++ [name]) ∧ init.filter (!Path.isIdle ·) = names ∧
      (init ++ [name]).rdropWhile (·.isEmpty) = init ++ [name] := by
  obtain ⟨-, hnames⟩ := h.origin_eq here
  obtain ⟨rest, init, last, rfl, hparts, busy⟩ := tight
  have horigin : origin here ('/' :: rest) = ([], init ++ [last]) := by rw [origin_slash, hparts]
  rw [horigin] at hnames
  dsimp only at hnames
  rw [List.filter_append, List.filter_cons_of_pos (by simp [busy]), List.filter_nil] at hnames
  obtain ⟨hinit, hlast⟩ := List.append_inj' hnames rfl
  obtain rfl : last = name := List.singleton_injective hlast
  have hne : last ≠ [] := by
    rintro rfl
    cases busy
  exact ⟨init, horigin, hinit, List.rdropWhile_concat_neg _ _ _ (by simp [hne])⟩

/-- The entry of a path is its last name in the directory of the others. -/
lemma Spells.entry_eq (h : Spells path (names ++ [name])) (tight : Path.IsTight path)
    (there : t.root.kindAt? names = some .empty) : t.entry path = .ok ⟨names, name, false⟩ := by
  obtain ⟨init, horigin, rfl, hnamed⟩ := h.exists_origin tight t.working
  have walks := walks_down mostLinks [] (fun part hpart => h.plain part (List.mem_append_left _ hpart)) there
  have hlast := h.plain name (List.mem_append_right _ (List.mem_singleton_self name))
  have hmem : name ∈ Path.segments path := by
    rw [h.spelled]
    exact List.mem_append_right _ (List.mem_singleton_self name)
  have hbusy := busy_of_mem_segments hmem
  have hdot : name ≠ ['.'] := by
    rintro rfl
    cases hbusy
  rw [entry_of_walks h.valid horigin hnamed walks there, if_neg (by simp [hdot, hlast.named]),
    if_neg (Nat.not_lt.2 hlast.short), decide_eq_false (Nat.lt_irrefl _)]
  rfl

/-- Parts lead nowhere where one of the names among them is missing before the end. -/
lemma found_of_gap {root : Node} (links : Nat) {parts : List Text} (busy : name ∈ parts.filter (!Path.isIdle ·))
    (plain : ∀ part ∈ parts.filter (!Path.isIdle ·), IsPlainName part)
    (hparts : parts.filter (!Path.isIdle ·) = names ++ name :: more)
    (there : root.kindAt? names = some .empty) (missing : root.get? (names ++ [name]) = none) :
    walkThrough root true (links + 1) [] parts = .error .missing ∨
      ∃ place asDirectory, walkThrough root true (links + 1) [] parts = .ok (.absent place asDirectory) := by
  obtain ⟨before, after, rfl, hbefore, hafter⟩ := List.filter_eq_append_iff.1 hparts
  obtain ⟨idle, rest, rfl, hidle, -, -⟩ := List.filter_eq_cons_iff.1 hafter
  have hname := plain name busy
  have hdown : (before ++ idle).filter (!Path.isIdle ·) = names := by
    rw [List.filter_append, hbefore, List.filter_eq_nil_iff.2 hidle, List.append_nil]
  have walks : Walks root ⟨links + 1, [], before ++ idle⟩ ⟨links + 1, names, []⟩ := by
    have hplain : ∀ part ∈ (before ++ idle).filter (!Path.isIdle ·), IsPlainName part := by
      intro part hpart
      rw [hdown] at hpart
      exact plain part (by rw [hparts]; exact List.mem_append_left _ hpart)
    rw [← hdown] at there ⊢
    exact walks_down links [] hplain there
  have hfound := (walks.append (name :: rest)).found_eq
  dsimp only at hfound
  have hidle := (List.mem_filter.1 busy).2
  rw [List.nil_append, found_of_busy (by simpa using hidle) hname.named hname.short, missing,
    List.append_assoc] at hfound
  dsimp only at hfound
  split at hfound
  · exact .inr ⟨_, _, hfound⟩
  · exact .inl hfound

/-- Where a name is missing before the last one, there is no entry. -/
lemma Spells.entry_missing (h : Spells path (names ++ name :: more)) (hmore : more ≠ [])
    (tight : Path.IsTight path) (there : t.root.kindAt? names = some .empty)
    (missing : t.root.get? (names ++ [name]) = none) : t.entry path = .error .missing := by
  obtain ⟨others, last, rfl⟩ := List.eq_nil_or_concat more |>.resolve_left hmore
  rw [List.concat_eq_append, ← List.cons_append, ← List.append_assoc] at h
  obtain ⟨init, horigin, hinit, hnamed⟩ := h.exists_origin tight t.working
  -- the directory of the entry is looked for as if the path ended with a slash
  have hopen : (init ++ [[]]).filter (!Path.isIdle ·) = names ++ name :: others := by
    rw [List.filter_append, hinit]
    simp [Path.isIdle]
  have plain : ∀ part ∈ (init ++ [[]]).filter (!Path.isIdle ·), IsPlainName part := by
    rw [hopen]
    exact fun part hpart => h.plain part (List.mem_append_left _ hpart)
  have hmem : name ∈ (init ++ [[]]).filter (!Path.isIdle ·) := by
    rw [hopen]
    exact List.mem_append_right _ List.mem_cons_self
  have hfound := found_of_gap mostLinks hmem plain hopen there missing
  change ((init ++ [last]).reverse.dropWhile (·.isEmpty)).reverse = init ++ [last] at hnamed
  rw [entry, h.valid, horigin]
  dsimp only [bind, Except.bind]
  rw [hnamed, List.getLast?_concat, List.dropLast_concat]
  rcases hfound with hfound | ⟨place, asDirectory, hfound⟩ <;> rw [hfound]

/-! ### Making a chain longer -/

lemma Spells.makeIfMissing_present (h : Spells path names) (there : t.root.kindAt? names = some .empty) :
    t.makeIfMissing path = .present := by
  have hnames := h.exists_names there
  rw [makeIfMissing, hnames.makeDirectory h.absolute]
  dsimp only
  rw [if_neg (by decide), if_pos (isDirectory_iff.2 ⟨_, hnames⟩)]

lemma makeDirectory_of_entry {e : Entry} (h : t.entry path = .ok e) (absent : t.root.get? e.place = none) :
    t.makeDirectory path = t.put e.place .empty := by
  rw [makeDirectory, h]
  dsimp only
  rw [if_neg (by simp [absent])]

/-- The next directory of a chain is made. -/
lemma Spells.makeIfMissing_made (h : Spells path (names ++ [name])) (tight : Path.IsTight path) :
    (chain names).makeIfMissing path = .made (chain (names ++ [name])) := by
  have hentry := h.entry_eq (t := chain names) tight (Node.kindAt?_chain (List.prefix_refl names))
  have hput : (chain names).put (names ++ [name]) .empty = .ok (chain (names ++ [name])) :=
    put_eq_ok_iff.2 ⟨Node.put?_chain names name, rfl⟩
  rw [makeIfMissing, (makeDirectory_of_entry hentry (Node.get?_chain_end names name)).trans hput]

/-- Further directories of a chain cannot be made yet. -/
lemma Spells.makeIfMissing_missing (h : Spells path (names ++ name :: more)) (hmore : more ≠ [])
    (tight : Path.IsTight path) : (chain names).makeIfMissing path = .missing := by
  have hentry := h.entry_missing (t := chain names) hmore tight (Node.kindAt?_chain (List.prefix_refl names))
    (Node.get?_chain_end names name)
  have hmake : (chain names).makeDirectory path = .error .missing := by rw [makeDirectory, hentry]
  rw [makeIfMissing, hmake]
  exact if_pos rfl

/-! ### Making all of a chain -/

/-- The path of the directory around is spelled by the names but for the last one. -/
lemma Spells.exists_parent (h : Spells path (names ++ [name])) :
    ∃ parent, Path.parent? path = some parent ∧ parent ≠ [] ∧ Spells parent names ∧
      (names ≠ [] → Path.IsTight parent) := by
  obtain ⟨parent, hparent, absolute, hsegments, hprefix, tight⟩ := Path.exists_parent h.absolute h.spelled
  obtain ⟨hnull, -, hsize⟩ := checkPath_eq_ok_iff.1 h.valid
  have hne : parent ≠ [] := by
    obtain ⟨rest, rfl⟩ := Path.exists_of_isAbsolute absolute
    exact List.cons_ne_nil _ _
  refine ⟨parent, hparent, hne, ⟨absolute, hsegments, ?_, ?_⟩, tight⟩
  · exact fun name hname => h.plain name (List.mem_append_left _ hname)
  · obtain ⟨more, rfl⟩ := hprefix
    rw [Utf8.size_append] at hsize
    exact checkPath_eq_ok_iff.2 ⟨fun hmem => hnull (List.mem_append_left _ hmem), hne, by omega⟩

/-- Some paths spell longer and longer beginnings of names. -/
abbrev SpellEach (paths : List Text) (beginnings : List (List Text)) : Prop :=
  List.Forall₂ (fun path names => Spells path names ∧ Path.IsTight path) paths beginnings

variable {base : List Text}

/-- The first directory that is missing is made, and the others are left to be made. -/
lemma makeOutermost_chain {steps : Nat} (todo : List Text) (h : Spells path (base ++ more))
    (tight : more ≠ [] → Path.IsTight path) (enough : more.length < steps) :
    ∃ rest, (chain base).makeOutermost todo (ancestors steps path) =
        .ok (chain (base ++ more.take 1), rest ++ todo) ∧
      SpellEach rest ((more.inits.drop 2).map (base ++ ·)) := by
  -- the paths go from the inside to the outside, so the names are taken from their end
  induction more using List.reverseRecOn generalizing path steps todo with
  | nil =>
    obtain ⟨steps, rfl⟩ := Nat.exists_eq_add_one_of_ne_zero (Nat.ne_zero_of_lt enough)
    rw [List.append_nil] at h
    have present := h.makeIfMissing_present (t := chain base) (Node.kindAt?_chain (List.prefix_refl base))
    refine ⟨[], ?_, .nil⟩
    rw [ancestors, makeOutermost, present, List.take_nil, List.append_nil, List.nil_append]
  | append_singleton more name ih =>
    obtain ⟨steps, rfl⟩ := Nat.exists_eq_add_one_of_ne_zero (Nat.ne_zero_of_lt enough)
    have htight := tight (by simp)
    rw [List.length_append, List.length_singleton] at enough
    rcases more with _ | ⟨first, more⟩
    · refine ⟨[], ?_, .nil⟩
      rw [List.nil_append] at h
      rw [ancestors, makeOutermost, h.makeIfMissing_made htight]
      rfl
    · have missing : (chain base).makeIfMissing path = .missing := by
        rw [List.cons_append] at h
        exact h.makeIfMissing_missing (by simp) htight
      rw [← List.append_assoc] at h
      obtain ⟨parent, hparent, hne, spells, tight'⟩ := h.exists_parent
      obtain ⟨rest, hrest, heach⟩ := ih (path :: todo) spells (fun _ => tight' (by simp))
        (by omega : (first :: more).length < steps)
      refine ⟨rest ++ [path], ?_, ?_⟩
      · rw [ancestors, makeOutermost, missing, hparent]
        dsimp only
        rw [if_neg (by simpa using hne), hrest, List.append_assoc]
        rfl
      · have hinits : ((first :: more) ++ [name]).inits.drop 2 =
            (first :: more).inits.drop 2 ++ [(first :: more) ++ [name]] := by
          rw [List.inits_append, List.drop_append_of_le_length (by simp)]
          rfl
        rw [hinits, List.map_append, List.map_singleton, ← List.append_assoc]
        exact List.rel_append heach (.cons ⟨h, htight⟩ .nil)

/-- Directories are made one after the other, each in the one before. -/
lemma makeEach_chain {paths : List Text} (h : SpellEach paths (more.inits.tail.map (base ++ ·))) :
    (chain base).makeEach paths = (.ok (), chain (base ++ more)) := by
  induction more generalizing base paths with
  | nil =>
    cases h
    rw [makeEach, List.append_nil]
  | cons name more ih =>
    have hinits : (name :: more).inits.tail.map (base ++ ·) =
        (base ++ [name]) :: more.inits.tail.map (base ++ [name] ++ ·) := by
      cases more <;> simp
    rw [hinits] at h
    cases h with
    | cons hpath hpaths =>
      rw [makeEach, hpath.1.makeIfMissing_made hpath.2]
      dsimp only
      rw [ih hpaths, List.append_assoc, List.singleton_append]

/-- **Making a directory** with those around it makes a chain longer. -/
theorem makeDirectories_chain (h : Spells path (base ++ more)) (tight : more ≠ [] → Path.IsTight path) :
    (chain base).makeDirectories path = (.ok (), chain (base ++ more)) := by
  obtain ⟨rest, rfl⟩ := Path.exists_of_isAbsolute h.absolute
  have hlength : (base ++ more).length ≤ rest.length := by
    rw [← h.spelled, Path.segments_cons_slash]
    exact Path.length_segments_le rest
  unfold makeDirectories
  split
  · next hroot =>
    have hcomponents : Path.components ('/' :: rest) = [.root] := by simpa using hroot
    rw [Path.components_of_isAbsolute h.absolute, h.spelled] at hcomponents
    obtain ⟨rfl, rfl⟩ : base = [] ∧ more = [] := by simpa using hcomponents
    rfl
  rw [List.length_append] at hlength
  obtain ⟨todo, hmade, heach⟩ := makeOutermost_chain [] h tight
    (by rw [List.length_cons]; omega : more.length < ('/' :: rest).length)
  rw [hmade, List.append_nil]
  rcases more with _ | ⟨name, more⟩
  · cases heach
    rfl
  · have hinits : (name :: more).inits.drop 2 = more.inits.tail.map (name :: ·) := by
      cases more <;> simp
    have hbase : (base ++ ·) ∘ (name :: ·) = fun names : List Text => base ++ [name] ++ names := by
      funext names
      simp
    rw [hinits, List.map_map, hbase] at heach
    have hall := makeEach_chain heach
    rw [List.append_assoc, List.singleton_append] at hall
    exact hall

/-! ### Names that are too long -/

/-- The parts that a walk takes are not too long. -/
lemma Walks.short {root : Node} {a b : Walker} (h : Walks root a b) (all : b.left = []) :
    ∀ part ∈ a.left, (Path.isIdle part = true ∨ part = ['.', '.']) ∨ Utf8.size part ≤ longestName := by
  induction h using ReflTransGen.head_induction_on with
  | refl =>
    rw [all]
    exact nofun
  | head step _ ih =>
    cases step with
    | idle idle => exact List.forall_mem_cons.2 ⟨.inl (.inl idle), ih⟩
    | up => exact List.forall_mem_cons.2 ⟨.inl (.inr rfl), ih⟩
    | down _ _ short _ => exact List.forall_mem_cons.2 ⟨.inr short, ih⟩
    | through _ _ short _ =>
      exact List.forall_mem_cons.2 ⟨.inr short, fun part hpart => ih part (List.mem_append_right _ hpart)⟩

/-- **An absolute path without two dots that names a directory** can be asked for, and none of its names is too
long. -/
theorem Names.spells {place : Place} (h : t.Names path place) (absolute : Path.isAbsolute path = true)
    (straight : ['.', '.'] ∉ Path.segments path) : Spells path (Path.segments path) := by
  obtain ⟨es, hes⟩ := h
  have valid := checkPath_of_resolve hes
  rw [resolve_eq valid] at hes
  obtain ⟨⟨left, walks⟩, -⟩ := FileTree.exists_walks hes
  refine ⟨absolute, rfl, ?_, valid⟩
  intro name hname
  have hmem : name ∈ (origin t.working path).2 := by
    obtain ⟨rest, rfl⟩ := Path.exists_of_isAbsolute absolute
    rw [Path.segments_cons_slash] at hname
    exact (List.mem_filter.1 hname).1
  have hne : name ≠ ['.', '.'] := by
    rintro rfl
    exact straight hname
  rcases walks.short rfl name hmem with (hidle | hup) | hshort
  · rw [busy_of_mem_segments hname] at hidle
    cases hidle
  · exact absurd hup hne
  · exact ⟨hne, hshort⟩

end FileTree

end Custodian
