import Custodian.Proofs.FileTree.Calls
import Custodian.Proofs.Path.Segments

/-!
# Directories that are there

If an absolute path names a directory, there is nothing to be made (`Names.makeDirectories`), and a file can
be put there under any name (`exists_put`).
-/

namespace Custodian

namespace Node

variable {root : Node} {place : Place} {es : List (Text × Node)}

/-- There is room for a node in every directory. -/
lemma exists_put? (h : root.get? place = some (.directory es)) (name : Text) (new : Node) :
    ∃ root', put? new (place ++ [name]) root = some root' := by
  induction place generalizing root with
  | nil =>
    rw [get?_nil] at h
    obtain rfl := Option.some.inj h
    exact ⟨_, rfl⟩
  | cons first place ih =>
    cases root with
    | file content => cases h
    | link target => cases h
    | directory entries =>
      rw [get?_cons] at h
      obtain ⟨child, hchild, hplace⟩ := Option.bind_eq_some_iff.1 h
      obtain ⟨child', hput⟩ := ih hplace
      obtain ⟨next, more, hmore⟩ :=
        List.exists_cons_of_ne_nil (List.append_ne_nil_of_right_ne_nil place (List.cons_ne_nil name []))
      rw [hmore] at hput
      rw [List.cons_append, hmore, put?, hchild]
      exact ⟨_, congrArg (Option.map _) hput⟩

/-- What is above a directory is a directory. -/
lemma kindAt?_of_above {above : Place} (h : root.kindAt? place = some .empty) (below : above <+: place) :
    root.kindAt? above = some .empty := by
  obtain ⟨more, rfl⟩ := below
  cases more with
  | nil => rwa [List.append_nil] at h
  | cons name more =>
    obtain ⟨entries, hentries⟩ := kindAt?_eq_directory.1 h
    exact kindAt?_eq_directory.2 (exists_directory_of_get? hentries)

end Node

namespace FileTree

/-! ### Walks from a directory -/

section Walks

variable {root : Node} {a b : Walker}

lemma origin_above (here : Place) (path : Text) : (origin here path).1 <+: here := by
  unfold origin
  split
  · exact List.nil_prefix
  · exact List.prefix_refl _

/-- A walk from a directory leads to a directory. -/
lemma Walk.directory (h : Walk root a b) (start : root.kindAt? a.here = some .empty) :
    root.kindAt? b.here = some .empty := by
  cases h with
  | idle => exact start
  | up => exact Node.kindAt?_of_above start (List.dropLast_prefix _)
  | down _ _ _ directory => exact directory
  | through => exact Node.kindAt?_of_above start (origin_above _ _)

lemma Walks.directory (h : Walks root a b) (start : root.kindAt? a.here = some .empty) :
    root.kindAt? b.here = some .empty := by
  induction h with
  | refl => exact start
  | tail _ step ih => exact step.directory ih

/-- A part that a walk takes leads nowhere down, or it is short and stands for something. -/
lemma Walk.part_cases {links : Nat} {here : Place} {part : Text} {left : List Text}
    (h : Walk root ⟨links, here, part :: left⟩ b) :
    (Path.isIdle part = true ∨ part = ['.', '.']) ∨
      Utf8.size part ≤ longestName ∧ (root.get? (here ++ [part])).isSome := by
  cases h with
  | idle idle => exact .inl (.inl idle)
  | up => exact .inl (.inr rfl)
  | down _ _ short directory =>
    obtain ⟨es, hes⟩ := Node.kindAt?_eq_directory.1 directory
    exact .inr ⟨short, by rw [hes]; rfl⟩
  | through _ _ short link => exact .inr ⟨short, by rw [Node.kindAt?_eq_link.1 link]; rfl⟩

end Walks

/-! ### Nothing is to be made -/

section Present

variable {t : FileTree} {path : Text} {place : Place}

lemma exists_put {es : List (Text × Node)} (h : t.root.get? place = some (.directory es)) (name : Text)
    (node : Node) : ∃ t', t.put (place ++ [name]) node = .ok t' := by
  obtain ⟨root, hroot⟩ := Node.exists_put? h name node
  exact ⟨{ t with root }, put_eq_ok_iff.2 ⟨hroot, rfl⟩⟩

lemma origin_of_isAbsolute (absolute : Path.isAbsolute path = true) (here : Place) :
    (origin here path).1 = [] := by
  obtain ⟨rest, rfl⟩ := Path.exists_of_isAbsolute absolute
  rfl

/-- The parts of a path without the empty ones at its end. -/
lemma named_cases (parts : List Text) :
    parts.rdropWhile (·.isEmpty) = [] ∨
      ∃ init name idle, parts.rdropWhile (·.isEmpty) = init ++ [name] ∧ parts = init ++ name :: idle ∧
        name ≠ [] ∧ ∀ part ∈ idle, part = [] := by
  rcases List.eq_nil_or_concat (parts.rdropWhile (·.isEmpty)) with hnil | ⟨init, name, hnamed⟩
  · exact .inl hnil
  · rw [List.concat_eq_append] at hnamed
    refine .inr ⟨init, name, parts.rtakeWhile (·.isEmpty), hnamed, ?_, ?_, ?_⟩
    · have hparts : parts.rdropWhile (·.isEmpty) ++ parts.rtakeWhile (·.isEmpty) = parts :=
        List.rdropWhile_append_rtakeWhile
      rw [hnamed, List.append_assoc] at hparts
      exact hparts.symm
    · rintro rfl
      have hlast := List.rdropWhile_last_not (·.isEmpty) parts (by simp [hnamed])
      simp [hnamed] at hlast
    · intro part hpart
      simpa using List.mem_rtakeWhile_imp hpart

/-- A path of a directory means the root or dots, or an entry that is there. -/
lemma Names.entry_cases (h : t.Names path place) (absolute : Path.isAbsolute path = true) :
    t.entry path = .error .busy ∨ ∃ e, t.entry path = .ok e ∧ (t.root.get? e.place).isSome := by
  obtain ⟨es, hes⟩ := h
  have hcheck := checkPath_of_resolve hes
  have horigin : origin t.working path = ([], (origin t.working path).2) := by
    rw [← origin_of_isAbsolute absolute t.working]
  rw [resolve_eq hcheck, origin_of_isAbsolute absolute] at hes
  obtain ⟨⟨left, walks⟩, hplace⟩ := FileTree.exists_walks hes
  have hroot : t.root.kindAt? [] = some .empty :=
    Node.kindAt?_of_above (Node.kindAt?_eq_directory.2 ⟨es, hplace⟩) List.nil_prefix
  rcases named_cases (origin t.working path).2 with hnil | ⟨init, name, idle, hnamed, hparts, hname, -⟩
  · left
    have hlast : ((origin t.working path).2.reverse.dropWhile (·.isEmpty)).reverse = [] := hnil
    rw [entry, hcheck, horigin]
    dsimp only
    rw [hlast]
    rfl
  · rw [hparts] at horigin hnamed walks
    obtain ⟨between, middle, hfirst, hlast⟩ := walks.cut
    have hmiddle := hfirst.directory hroot
    obtain ⟨b, step, -⟩ := (Relation.ReflTransGen.cases_head hlast).resolve_left (by simp)
    cases between with
    | zero => cases step
    | succ between =>
      rw [entry_of_walks hcheck horigin hnamed hfirst hmiddle]
      by_cases hdots : name = ['.'] ∨ name = ['.', '.']
      · exact .inl (if_pos hdots)
      rcases step.part_cases with (hidle | hup) | ⟨hshort, hsome⟩
      · simp only [Path.isIdle, Bool.or_eq_true, decide_eq_true_eq] at hidle
        exact absurd (.inl (hidle.resolve_left hname)) hdots
      · exact absurd (.inr hup) hdots
      · rw [if_neg hdots, if_neg (Nat.not_lt.2 hshort)]
        exact .inr ⟨_, rfl, hsome⟩

/-- **A directory that is there** cannot be made. -/
lemma Names.makeDirectory (h : t.Names path place) (absolute : Path.isAbsolute path = true) :
    t.makeDirectory path = .error .exists := by
  unfold FileTree.makeDirectory
  rcases h.entry_cases absolute with hbusy | ⟨e, he, hsome⟩
  · rw [hbusy]
  · rw [he]
    exact if_pos hsome

/-- **Where a directory is**, there is nothing to be made. -/
theorem Names.makeDirectories (h : t.Names path place) (absolute : Path.isAbsolute path = true) :
    t.makeDirectories path = (.ok (), t) := by
  obtain ⟨es, hes⟩ := h
  have hpresent : t.makeIfMissing path = .present := by
    have hdirectory : t.isDirectory path = true := by
      rw [FileTree.isDirectory, FileTree.directory, hes]
      rfl
    rw [makeIfMissing, Names.makeDirectory ⟨es, hes⟩ absolute]
    dsimp only
    rw [if_neg (by decide), if_pos hdirectory]
  unfold FileTree.makeDirectories
  split
  · rfl
  · obtain ⟨c, rest, rfl⟩ := List.exists_cons_of_ne_nil (ne_nil_of_checkPath (checkPath_of_resolve hes))
    rw [List.length_cons, ancestors, makeOutermost, hpresent]
    rfl

end Present

end FileTree

end Custodian
