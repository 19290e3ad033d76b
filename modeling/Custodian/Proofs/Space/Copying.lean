import Custodian.Proofs.FileTree.Made
import Custodian.Space.Local

/-!
# Moving and copying

* `runRsync_copies`: rsync is run once, or not at all if it cannot be started.
* `createLocalDirectory_prepares`: around a path, directories that are missing are made, and nothing else.
* `move_moves`: a move either renames its source or tries rsync once, and never both.
-/

namespace Custodian

/-- A program is not started, and nothing has happened; or it is run once. -/
lemma Machine.run_cases (command : Text) (arguments : List Text) (input : Text)
    (scratch : Option (List Text)) (m : Machine) :
    m.run command arguments input scratch = (none, m) ∨
      ∃ program, m.program? command = some program ∧
        m.run command arguments input scratch =
          (some (m.ending m.runs ⟨program, arguments, input, scratch⟩),
            { m with runs := m.runs ++ [⟨program, arguments, input, scratch⟩] }) := by
  unfold Machine.run
  rcases m.program? command with _ | program
  · exact .inl rfl
  · dsimp only
    split
    · exact .inl rfl
    · exact .inr ⟨program, rfl, rfl⟩

namespace Space

/-! ### One run of rsync -/

/-- What comes of one attempt to run rsync: whether it has succeeded, and the machine afterwards. -/
inductive Copies (arguments : List Text) (scratch : Option (List Text)) (m : Machine) :
    Bool → Machine → Prop
  /-- Rsync cannot be started, and nothing has happened. -/
  | notStarted (run : m.run Program.rsync.name arguments [] scratch = (none, m)) :
      Copies arguments scratch m false m
  /-- Rsync is run, and this is all that has happened. -/
  | ended {program : Program} {ending : Ending} {m' : Machine}
      (run : m.run Program.rsync.name arguments [] scratch = (some ending, m'))
      (once : m' = { m with runs := m.runs ++ [⟨program, arguments, [], scratch⟩] }) :
      Copies arguments scratch m ending.isSuccess m'

variable {arguments : List Text} {scratch : Option (List Text)} {m m' : Machine} {succeeded : Bool}

lemma Copies.files (h : Copies arguments scratch m succeeded m') : m'.files = m.files := by
  cases h with
  | notStarted => rfl
  | ended _ once => rw [once]

/-- **Rsync is run at most once.** -/
theorem runRsync_copies (arguments : List Text) (scratch : Option (List Text)) (m : Machine) :
    Copies arguments scratch m (runRsync arguments scratch m).1.isOk (runRsync arguments scratch m).2 := by
  rcases m.run_cases Program.rsync.name arguments [] scratch with hrun | ⟨program, -, hrun⟩
  · rw [runRsync, hrun]
    exact .notStarted hrun
  · have copies := Copies.ended hrun rfl
    rw [runRsync, hrun]
    dsimp only
    split <;> next hsuccess =>
      simp only [hsuccess] at copies
      exact copies

/-- What rsync prints is dropped. -/
lemma Copies.of_runRsync {result : Except Error Unit × Machine}
    (h : result = match runRsync arguments scratch m with
      | (.ok _, m) => (.ok (), m)
      | (.error e, m) => (.error e, m)) :
    Copies arguments scratch m result.1.isOk result.2 := by
  have copies := runRsync_copies arguments scratch m
  rw [h]
  rcases hrun : runRsync arguments scratch m with ⟨e | output, m'⟩ <;> rw [hrun] at copies <;> exact copies

/-! ### Directories around a path -/

/-- The paths of the directories around a path, the innermost first. -/
def around (path : Text) : List Text :=
  match Path.parent? path with
  | none => []
  | some parent => FileTree.ancestors parent.length parent

/-- Directories around a path were made, and nothing else has happened. If this has succeeded, the path has a
directory that it lies in. -/
structure Prepares (path : Text) (m : Machine) (succeeded : Bool) (m' : Machine) : Prop where
  frame : m' = { m with files := m'.files }
  makes : FileTree.Makes (around path) m.files m'.files
  grows : FileTree.Grows m.files m'.files
  there : succeeded = true → ∀ parent, Path.parent? path = some parent → parent ≠ [] →
    Path.components parent ≠ [.root] → m'.files.isDirectory parent = true

/-- **Preparing a path** makes directories around it. -/
theorem createLocalDirectory_prepares (path : Text) (m : Machine) :
    Prepares path m (createLocalDirectory path m).1.isOk (createLocalDirectory path m).2 := by
  unfold createLocalDirectory
  rcases hparent : Path.parent? path with _ | parent
  · refine ⟨rfl, .refl, .refl _, ?_⟩
    rintro - parent heq
    cases hparent.symm.trans heq
  have makes := FileTree.makeDirectories_makes m.files parent
  dsimp only
  rcases hmade : m.files.makeDirectories parent with ⟨fault | ⟨⟩, files⟩ <;> rw [hmade] at makes
  · refine ⟨rfl, ?_, makes.grows, nofun⟩
    rw [around, hparent]
    exact makes
  · refine ⟨rfl, ?_, makes.grows, ?_⟩
    · rw [around, hparent]
      exact makes
    · rintro - parent' heq hne hroot
      cases hparent.symm.trans heq
      have there := FileTree.makeDirectories_isDirectory hne hroot (by rw [hmade])
      rw [hmade] at there
      exact there

/-! ### Moves -/

/-- How files are copied: what has been copied is taken away. -/
def copyOptions : List Text :=
  ["-t", "-O", "--protect-args", "-vv", "--chmod=Fug+rw,o-rwx,Dug+rwx,o-rwx", "-r", "--remove-source-files"]

/-- How a source is given to rsync: a directory with exactly one slash at its end, anything else as it is. -/
def IsGiven (files : FileTree) (source argument : Text) : Prop :=
  if files.isDirectory source then
    ∃ stem slashes, source = stem ++ slashes ∧ (∀ ch ∈ slashes, ch = '/') ∧ stem.getLast? ≠ some '/' ∧
      argument = stem ++ ['/']
  else argument = source

/-- A source is copied to a target with one attempt to run rsync. -/
def CopiesTo (source target : Text) (m : Machine) (succeeded : Bool) (m' : Machine) : Prop :=
  ∃ argument, IsGiven m.files source argument ∧
    Copies (copyOptions ++ [argument, target]) none m succeeded m'

/-- A source is renamed, and nothing is run; or it cannot be renamed, which leaves it where it is, and it is
copied. -/
inductive MovesOrCopies (source target : Text) (m : Machine) : Bool → Machine → Prop
  | renamed {a b : FileTree.Entry} {files : FileTree} (renamed : m.files.rename source target = .ok files)
      (ha : m.files.entry source = .ok a) (hb : m.files.entry target = .ok b)
      (moves : FileTree.Moves a.place b.place m.files files) :
      MovesOrCopies source target m true { m with files }
  | copied {fault : Fault} {succeeded : Bool} {m' : Machine}
      (refused : m.files.rename source target = .error fault)
      (copies : CopiesTo source target m succeeded m') : MovesOrCopies source target m succeeded m'

lemma rsyncSource_isGiven (files : FileTree) (source : Text) :
    IsGiven files source (rsyncSource files source) := by
  unfold IsGiven rsyncSource
  split
  · obtain ⟨slashes, hsource, hslashes, hlast⟩ := Text.exists_trimEnd '/' source
    exact ⟨_, slashes, hsource, hslashes, hlast, rfl⟩
  · rfl

lemma moveWithRsync_copies (source target : Text) (m : Machine) :
    CopiesTo source target m (moveWithRsync source target m).1.isOk (moveWithRsync source target m).2 := by
  have hmove : moveWithRsync source target m =
      match runRsync (copyOptions ++ [rsyncSource m.files source, target]) none m with
      | (.ok _, m) => (.ok (), m)
      | (.error e, m) => (.error e, m) := rfl
  exact ⟨_, rsyncSource_isGiven m.files source, .of_runRsync hmove⟩

/-- **A move** renames its source or copies it. -/
theorem move_moves (source target : Text) (m : Machine) :
    MovesOrCopies source target m (move source target true m).1.isOk (move source target true m).2 := by
  rw [move, if_pos rfl]
  rcases hrename : m.files.rename source target with fault | files
  · exact .copied hrename (moveWithRsync_copies source target m)
  · obtain ⟨a, b, ha, hb, -, moves⟩ := FileTree.rename_moves hrename
    exact .renamed hrename ha hb moves

/-! ### Transfers on one machine -/

/-- The directories around a target are made, and if this succeeds, something is moved there. -/
inductive Transfers (target : Text) (moves : Machine → Bool → Machine → Prop) (m : Machine) :
    Bool → Machine → Prop
  /-- The directories cannot be made, and nothing else happens. -/
  | unprepared {e : Error} {m' : Machine} (failed : createLocalDirectory target m = (.error e, m'))
      (prepares : Prepares target m false m') : Transfers target moves m false m'
  | prepared {succeeded : Bool} {m' m'' : Machine} (made : createLocalDirectory target m = (.ok (), m'))
      (prepares : Prepares target m true m') (moved : moves m' succeeded m'') :
      Transfers target moves m succeeded m''

end Space

end Custodian
