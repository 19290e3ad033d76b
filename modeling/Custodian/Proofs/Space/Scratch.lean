import Custodian.Proofs.FileTree.Chain
import Custodian.Proofs.Sequence
import Custodian.Proofs.Space.Copying
import Custodian.Proofs.Text.Order

/-!
# The scratch directory

The directories around a path of a remote machine are made in an empty scratch directory first, which is then
copied onto the remote root.

* `scratchDirectories_eq`: below the scratch directory there are then the directories around the path, and
  nothing else.
* `fitsScratch_of_scratchDirectories`: they can be made only if none of their names is too long, and the path
  below the scratch directory can be asked for.
* `createRemoteDirectory_cases`: what comes of it on a machine.
-/

namespace Custodian

/-! ### Order -/

/-- The beginning of a text is no greater than the text. -/
lemma Text.not_lt_of_isPrefix {a b : Text} (h : a <+: b) : ¬b < a := by
  obtain ⟨more, rfl⟩ := h
  induction a with
  | nil => exact List.not_lt_nil _
  | cons c a ih =>
    rw [List.cons_append, List.cons_lt_cons_iff, not_or]
    exact ⟨Char.lt_irrefl c, fun h => ih h.2⟩

namespace Space

open FileTree (Spells)

variable {path target : Text}

/-! ### The path below the scratch directory -/

/-- The path at which the directories are made. -/
def scratchOf (path : Text) : Text :=
  Path.join scratchPath (belowRoot path)

/-- The directories at a path can be made below the scratch directory. -/
structure FitsScratch (path : Text) : Prop where
  valid : FileTree.checkPath (scratchOf path) = .ok ()
  short : ∀ name ∈ Path.segments path, Utf8.size name ≤ FileTree.longestName

section Below

variable (absolute : Path.isAbsolute path = true)

include absolute

lemma root_isPrefix : Path.components ['/'] <+: Path.components path := by
  rw [Path.components_of_isAbsolute absolute, Path.components_of_isAbsolute rfl]
  exact List.prefix_append [Path.Component.root] _

lemma belowRoot_eq : belowRoot path = Path.relative ['/'] path := by
  obtain ⟨after, hafter⟩ := root_isPrefix absolute
  have hinside : Path.afterComponents? (Path.components ['/']) (Path.components path) = some after :=
    Path.afterComponents?_eq_some_iff.2 hafter.symm
  unfold belowRoot Path.relative Path.inside?
  rw [hinside]
  rfl

lemma isAbsolute_belowRoot : Path.isAbsolute (belowRoot path) = false := by
  rw [belowRoot_eq absolute]
  exact Path.isAbsolute_relative rfl (root_isPrefix absolute)

lemma segments_scratchOf : Path.segments (scratchOf path) = scratchPlace ++ Path.segments path := by
  have hbelow : Path.segments path = Path.segments (belowRoot path) := by
    rw [belowRoot_eq absolute]
    exact Path.segments_relative (rfl : Path.isAbsolute ['/'] = true) (root_isPrefix absolute)
  rw [scratchOf, Path.segments_join (isAbsolute_belowRoot absolute), hbelow]
  rfl

lemma scratchOf_eq : scratchOf path = scratchPath ++ '/' :: belowRoot path := by
  rw [scratchOf, Path.join, isAbsolute_belowRoot absolute]
  rfl

/-- The path below the scratch directory ends with a part that says something, unless nothing is to be made. -/
lemma isTight_scratchOf (h : Path.segments path ≠ []) : Path.IsTight (scratchOf path) := by
  obtain ⟨rest, hpath, -, hrelative⟩ := Path.relative_eq (rfl : Path.isAbsolute ['/'] = true)
    (root_isPrefix absolute)
  subst hpath
  rw [Path.segments_cons_slash, ← List.drop_zero (l := Path.segments rest)] at h
  have hfilter := Path.filter_dropParts (Path.segments ['/']).length (Text.splitOn '/' rest)
  rcases Path.dropIdleEnd_cases (Path.dropParts (Path.segments ['/']).length (Text.splitOn '/' rest)) with
    ⟨-, hnil⟩ | ⟨init, name, hconcat, busy, -⟩
  · exact absurd (hfilter.symm.trans hnil) h
  have hwhole : ∀ part ∈ init ++ [name], '/' ∉ part := by
    intro part hpart
    rw [← hconcat] at hpart
    exact Text.not_mem_of_mem_splitOn
      ((Path.dropParts_suffix _ _).subset ((Path.dropIdleEnd_isPrefix _).subset hpart))
  refine ⟨Path.joinParts scratchPlace ++ '/' :: Path.joinParts (init ++ [name]), scratchPlace ++ init, name, ?_,
    ?_, busy⟩
  · rw [scratchOf_eq absolute, belowRoot_eq absolute, hrelative, hconcat]
    rfl
  · have hsplit : Text.splitOn '/' (Path.joinParts (init ++ [name])) = init ++ [name] :=
      Text.splitOn_join (by simp) hwhole
    rw [Text.splitOn_append, hsplit, List.append_assoc]
    rfl

variable (straight : ['.', '.'] ∉ Path.segments path)

include straight

/-- The path below the scratch directory spells the names of the directories to be made. -/
lemma FitsScratch.spells (fits : FitsScratch path) :
    Spells (scratchOf path) (scratchPlace ++ Path.segments path) where
  absolute := by
    rw [scratchOf_eq absolute]
    rfl
  spelled := segments_scratchOf absolute
  plain name hname := by
    rcases List.mem_append.1 hname with hscratch | hname
    · rcases List.mem_pair.1 hscratch with rfl | rfl <;> exact ⟨by decide, by decide⟩
    · exact ⟨fun h => straight (h ▸ hname), fits.short name hname⟩
  valid := fits.valid

/-- **Below the scratch directory** there are the directories around, and nothing else. -/
theorem scratchDirectories_eq (fits : FitsScratch path) :
    scratchDirectories path = .ok ((Path.segments path).inits.tail.map Path.joinParts) := by
  have hmade : freshScratch.makeDirectories (scratchOf path) =
      (.ok (), FileTree.chain (scratchPlace ++ Path.segments path)) :=
    FileTree.makeDirectories_chain (fits.spells absolute straight) (isTight_scratchOf absolute)
  have hplaces : ((Node.chain (Path.segments path)).places.map fun below => Path.joinParts below.1) =
      (Path.segments path).inits.tail.map Path.joinParts := by
    rw [← Node.places_chain, List.map_map]
    rfl
  have ascending : ((Path.segments path).inits.tail.map Path.joinParts).Pairwise fun a b => ¬b < a := by
    rw [List.pairwise_map]
    exact (pairwise_inits _).tail.imp fun h => Text.not_lt_of_isPrefix (Path.joinParts_isPrefix h)
  rw [scratchOf] at hmade
  simp only [scratchDirectories, hmade, FileTree.chain]
  rw [Node.get?_chain, Option.getD_some, hplaces, Text.sort_eq_of_perm (List.Perm.refl _) ascending]

/-- Directories that were made below the scratch directory fit there. -/
theorem fitsScratch_of_scratchDirectories {directories : List Text}
    (h : scratchDirectories path = .ok directories) : FitsScratch path := by
  have hsegments := segments_scratchOf absolute
  have habsolute : Path.isAbsolute (scratchOf path) = true := by
    rw [scratchOf_eq absolute]
    rfl
  have hmade : (freshScratch.makeDirectories (scratchOf path)).1 = .ok () := by
    rcases hmake : freshScratch.makeDirectories (scratchOf path) with ⟨fault | ⟨⟩, files⟩
    · rw [scratchOf] at hmake
      simp only [scratchDirectories, hmake] at h
      cases h
    · rfl
  have hcomponents : Path.components (scratchOf path) ≠ [.root] := by
    rw [Path.components_of_isAbsolute habsolute, hsegments]
    simp [scratchPlace]
  have hne : scratchOf path ≠ [] := by
    rw [scratchOf_eq absolute]
    exact List.cons_ne_nil _ _
  have there := FileTree.makeDirectories_isDirectory hne hcomponents hmade
  obtain ⟨place, names⟩ := FileTree.isDirectory_iff.1 there
  have hstraight : ['.', '.'] ∉ Path.segments (scratchOf path) := by
    rw [hsegments, List.mem_append, not_or]
    exact ⟨by decide, straight⟩
  have spells := names.spells habsolute hstraight
  rw [hsegments] at spells
  exact ⟨spells.valid, fun name hname => (spells.plain name (List.mem_append_right _ hname)).short⟩

end Below

/-! ### Copying it onto the remote root -/

/-- How directories are copied. -/
def mirrorOptions : List Text :=
  ["-vv", "--protect-args", "--chmod=ug=rwx,o=rx", "--recursive"]

/-- The directories around a target, as paths below the root: each is named by a beginning of its segments. -/
def mirrored (target : Text) : List Text :=
  (Path.segments target).dropLast.inits.tail.map Path.joinParts

/-- The directories around a target can be made below the scratch directory. -/
def FitsAround (target : Text) : Prop :=
  ∀ parent, Path.parent? target = some parent → FitsScratch parent

/-- Some directories are copied onto a remote root with one attempt to run rsync. -/
def Mirrors (directories : List Text) (remote : Remote) : Machine → Bool → Machine → Prop :=
  Copies (mirrorOptions ++ [scratchPath ++ ['/'], remote.target ['/']]) (some directories)

section Mirror

variable (absolute : Path.isAbsolute target = true) (below : Path.segments target ≠ []) (remote : Remote)
  (m : Machine)

include absolute below

lemma exists_parent : ∃ parent, Path.parent? target = some parent ∧ Path.isAbsolute parent = true ∧
    Path.segments parent = (Path.segments target).dropLast := by
  obtain ⟨names, name, hnames⟩ := List.eq_nil_or_concat (Path.segments target) |>.resolve_left below
  rw [List.concat_eq_append] at hnames
  obtain ⟨parent, hparent, habsolute, hsegments, -⟩ := Path.exists_parent absolute hnames
  exact ⟨parent, hparent, habsolute, by rw [hsegments, hnames, List.dropLast_concat]⟩

/-- **Preparing a path of a remote machine** copies some directories onto its root, or the directories cannot be
made in the scratch directory, and nothing happens. -/
theorem createRemoteDirectory_cases :
    (∃ directories, Mirrors directories remote m (createRemoteDirectory target remote m).1.isOk
        (createRemoteDirectory target remote m).2 ∧
      (['.', '.'] ∉ Path.segments target → FitsAround target ∧ directories = mirrored target)) ∨
      createRemoteDirectory target remote m = (.error .scratchNotMade, m) ∧
        (['.', '.'] ∉ Path.segments target → ¬FitsAround target) := by
  obtain ⟨parent, hparent, habsolute, hsegments⟩ := exists_parent absolute below
  have hstraight : ['.', '.'] ∉ Path.segments target → ['.', '.'] ∉ Path.segments parent := by
    rw [hsegments]
    exact fun straight h => straight (List.dropLast_subset _ h)
  rcases hscratch : scratchDirectories parent with fault | directories
  · refine .inr ⟨by rw [createRemoteDirectory, hparent]; simp only [hscratch], ?_⟩
    intro straight fits
    rw [scratchDirectories_eq habsolute (hstraight straight) (fits parent hparent)] at hscratch
    cases hscratch
  · refine .inl ⟨directories, ?_, ?_⟩
    · refine Copies.of_runRsync ?_
      rw [createRemoteDirectory, hparent]
      simp only [hscratch]
      rfl
    · intro straight
      have fits := fitsScratch_of_scratchDirectories habsolute (hstraight straight) hscratch
      refine ⟨?_, ?_⟩
      · intro parent' hparent'
        cases hparent.symm.trans hparent'
        exact fits
      · rw [scratchDirectories_eq habsolute (hstraight straight) fits, Except.ok.injEq] at hscratch
        rw [← hscratch, mirrored, hsegments]

end Mirror

end Space

end Custodian
