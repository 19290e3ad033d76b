import Custodian.Proofs.Agent.Place
import Custodian.Proofs.CommandLine.LocalTransfer
import Custodian.Proofs.Space.Scratch

/-!
# Transfers to a remote machine

* `deposit_remotely`: a deposit on a remote machine runs rsync for the directories around its target, and then
  for its source; or, if these directories cannot be made in the scratch directory, it does nothing.
* `remote_store_mirrors`: the directories are just those that the target lies in, and a package is announced
  only after both runs have succeeded.
-/

namespace Custodian

namespace Space

/-- How a deposit on a remote machine ends, given the directories that are copied first. -/
inductive Deposits (directories : List Text) (remote : Remote) (source target : Text) (m : Machine) :
    Bool → Machine → Prop
  /-- The directories could not be copied, and nothing else is tried. -/
  | unprepared {m' : Machine} (mirrors : Mirrors directories remote m false m') :
      Deposits directories remote source target m false m'
  /-- The directories were copied, and then the source is. -/
  | prepared {succeeded : Bool} {m' m'' : Machine} (mirrors : Mirrors directories remote m true m')
      (copies : CopiesTo source (remote.target target) m' succeeded m'') :
      Deposits directories remote source target m succeeded m''

lemma Deposits.files {directories : List Text} {remote : Remote} {source target : Text} {m m' : Machine}
    {succeeded : Bool} (h : Deposits directories remote source target m succeeded m') :
    m'.files = m.files := by
  cases h with
  | unprepared mirrors => exact Copies.files mirrors
  | prepared mirrors copies =>
    obtain ⟨argument, -, copies⟩ := copies
    exact copies.files.trans (Copies.files mirrors)

end Space

namespace CommandLine

open Agent

/-- Whether it was tried to rename something. -/
def renames : Event → Bool
  | .moved _ _ tryRename _ => tryRename
  | _ => false

section Store

variable {c : Config}

/-- A package is announced after a deposit that has succeeded, and otherwise no request is sent. -/
lemma store_run (uuid source : Text) (w : World)
    (asked : (runCommand c (.store uuid source) w).2.requests ≠ w.requests) :
    ∃ p, RecordStore.load c.storePath uuid w.machine.files = .ok p ∧
      ∀ m' events, (deposit (World.surroundings c) source (p.fullPath c.spacePath) ⟨w, p, []⟩).2 =
          ⟨{ w with machine := m' }, p, events⟩ →
        (deposit (World.surroundings c) source (p.fullPath c.spacePath) ⟨w, p, []⟩).1.isOk = true ∧
          (runCommand c (.store uuid source) w).2 =
            (announceThen (World.surroundings c) (p.fullPath c.spacePath) Package.toJson
              ⟨{ w with machine := m' }, p, events⟩).2.world := by
  rcases hload : RecordStore.load c.storePath uuid w.machine.files with e | p
  · have hrun : (runCommand c (.store uuid source) w).2 = w := by
      simp only [runCommand, Task.ofCommand, Task.run, hload]
    exact absurd (by rw [hrun]) asked
  refine ⟨p, rfl, ?_⟩
  intro m' events hscene
  have hrun : (runCommand c (.store uuid source) w).2 =
      (depositThen (World.surroundings c) source (p.fullPath c.spacePath) Package.toJson
        ⟨w, p, []⟩).2.world := by
    simp only [runCommand, Task.ofCommand, Task.run, hload]
  rw [hrun, depositThen] at asked
  rw [hrun, depositThen]
  rcases hdeposit : deposit (World.surroundings c) source (p.fullPath c.spacePath) ⟨w, p, []⟩ with
    ⟨e | ⟨⟩, scene⟩ <;> rw [hdeposit] at asked hscene
  · dsimp only at asked hscene
    exact absurd (by rw [hscene]) asked
  · dsimp only at hscene ⊢
    rw [hscene]
    exact ⟨rfl, rfl⟩

end Store

section Remote

variable {π : Type} {c : Config} {remote : Remote} (hremote : c.appliance.remote? = some remote)

include hremote

lemma deposit_eq (source target : Text) :
    (deposit (World.surroundings c) source target : Job World π TransferError Unit) =
      createRemotely (World.surroundings c) target remote >>= fun _ =>
        move (World.surroundings c) source (remote.target target) false := by
  have hsurroundings : (World.surroundings c).remote? = some remote := hremote
  unfold deposit
  rw [hsurroundings]

/-- **A deposit on a remote machine** copies directories and then its source, and renames nothing. If it does
neither, it fails, and nothing has happened. -/
theorem deposit_remotely {target : Text} (absolute : Path.isAbsolute target = true)
    (below : Path.segments target ≠ []) (source : Text) (scene : Scene World π) :
    ∃ m' new,
      (deposit (World.surroundings c) source target scene).2 =
        ⟨{ scene.world with machine := m' }, scene.held, scene.events ++ new⟩ ∧
      (∀ e ∈ new, renames e = false) ∧
      ((∃ directories, Space.Deposits directories remote source target scene.world.machine
          (deposit (World.surroundings c) source target scene).1.isOk m' ∧
        (['.', '.'] ∉ Path.segments target →
          Space.FitsAround target ∧ directories = Space.mirrored target)) ∨
        (deposit (World.surroundings c) source target scene).1.isOk = false ∧ m' = scene.world.machine ∧
          (['.', '.'] ∉ Path.segments target → ¬Space.FitsAround target)) := by
  rw [deposit_eq hremote]
  have hcases := Space.createRemoteDirectory_cases absolute below remote scene.world.machine
  have hcreate := createRemotely_run (c := c) target remote scene
  have hscene : (createRemotely (World.surroundings c) target remote scene).2 =
      ⟨{ scene.world with machine := (Space.createRemoteDirectory target remote scene.world.machine).2 },
        scene.held, scene.events ++ [.createdRemotely target remote
          ((Space.createRemoteDirectory target remote scene.world.machine).1.mapError Space.Error.message)]⟩ :=
    rfl
  rcases hmade : Space.createRemoteDirectory target remote scene.world.machine with ⟨e | ⟨⟩, made⟩ <;>
    rw [hmade] at hcases hcreate hscene
  · have hfailed : (createRemotely (World.surroundings c) target remote scene).1 = .error (.space e.message) := by
      rw [hcreate]
      rfl
    rw [Job.bind_run_error hfailed]
    refine ⟨made, _, hscene, by simp [renames], ?_⟩
    rcases hcases with ⟨directories, mirrors, hmirrored⟩ | ⟨hnothing, hfits⟩
    · exact .inl ⟨directories, .unprepared mirrors, hmirrored⟩
    · exact .inr ⟨rfl, congrArg Prod.snd hnothing, hfits⟩
  · have hmirrored : (createRemotely (World.surroundings c) target remote scene).1 = .ok () := by
      rw [hcreate]
      rfl
    obtain ⟨directories, mirrors, hdirectories⟩ := hcases.resolve_right fun h => nomatch congrArg Prod.fst h.1
    have copies := Space.moveWithRsync_copies source (remote.target target) made
    rw [Job.bind_run_ok hmirrored, hscene, move_run]
    refine ⟨(Space.move source (remote.target target) false made).2,
      [.createdRemotely target remote (.ok ()), .moved source (remote.target target) false
        ((Space.move source (remote.target target) false made).1.mapError Space.Error.message)], ?_,
      by simp [renames], .inl ⟨directories, ?_, hdirectories⟩⟩
    · change (⟨_, _, (scene.events ++ [_]) ++ [_]⟩ : Scene World π) = _
      rw [List.append_assoc]
      rfl
    · rw [isOk_outcomeOf]
      exact .prepared mirrors copies

/-- **A remote store prepares the directories that it then copies into.** A deposit at an absolute path other
than the root and without two dots, whose directories can be made in the scratch directory, first runs rsync for
just the directories around the path; only if this succeeds, it runs rsync for its source; it succeeds just if
both runs do, changes no file of this machine and tries to rename nothing. If the directories cannot be made in
the scratch directory, it fails, and nothing has happened.

A package is stored in a space with an absolute root. If any request is sent, then both runs have succeeded
before, and all requests come from the announcement that follows. -/
theorem remote_store_mirrors :
    (∀ target, Path.isAbsolute target = true → Path.segments target ≠ [] →
      ['.', '.'] ∉ Path.segments target → ∀ source (scene : Scene World π), ∃ m' new,
        (deposit (World.surroundings c) source target scene).2 =
          ⟨{ scene.world with machine := m' }, scene.held, scene.events ++ new⟩ ∧
        m'.files = scene.world.machine.files ∧ (∀ e ∈ new, renames e = false) ∧
        (Space.FitsAround target →
          Space.Deposits (Space.mirrored target) remote source target scene.world.machine
            (deposit (World.surroundings c) source target scene).1.isOk m') ∧
        (¬Space.FitsAround target →
          (deposit (World.surroundings c) source target scene).1.isOk = false ∧ m' = scene.world.machine)) ∧
    (Path.isAbsolute c.spacePath = true → ∀ uuid source w,
      (runCommand c (.store uuid source) w).2.requests ≠ w.requests →
        ∃ p, RecordStore.load c.storePath uuid w.machine.files = .ok p ∧
          (Path.segments (p.fullPath c.spacePath) ≠ [] → ∃ directories m' events,
            Space.Deposits directories remote source (p.fullPath c.spacePath) w.machine true m' ∧
            (['.', '.'] ∉ Path.segments (p.fullPath c.spacePath) →
              directories = Space.mirrored (p.fullPath c.spacePath)) ∧
            (runCommand c (.store uuid source) w).2 =
              (announceThen (World.surroundings c) (p.fullPath c.spacePath) Package.toJson
                ⟨{ w with machine := m' }, p, events⟩).2.world)) := by
  refine ⟨?_, ?_⟩
  · intro target absolute below straight source scene
    obtain ⟨m', new, hscene, hnew, hcases⟩ := deposit_remotely hremote absolute below source scene
    refine ⟨m', new, hscene, ?_, hnew, ?_, ?_⟩
    · rcases hcases with ⟨directories, deposits, -⟩ | ⟨-, hsame, -⟩
      · exact deposits.files
      · rw [hsame]
    · intro fits
      obtain ⟨directories, deposits, hdirectories⟩ := hcases.resolve_right fun h => h.2.2 straight fits
      rw [(hdirectories straight).2] at deposits
      exact deposits
    · intro unfit
      obtain ⟨hfailed, hsame, -⟩ := hcases.resolve_left fun ⟨_, _, h⟩ => unfit (h straight).1
      exact ⟨hfailed, hsame⟩
  · intro absolute uuid source w asked
    obtain ⟨p, hload, hstore⟩ := store_run uuid source w asked
    refine ⟨p, hload, ?_⟩
    intro below
    have hfull := Package.isAbsolute_fullPath absolute p
    obtain ⟨m', new, hscene, -, hcases⟩ := deposit_remotely hremote hfull below source ⟨w, p, []⟩
    obtain ⟨succeeded, hrun⟩ := hstore m' _ hscene
    rcases hcases with ⟨directories, deposits, hdirectories⟩ | ⟨hfailed, -⟩
    · rw [succeeded] at deposits
      exact ⟨directories, m', _, deposits, fun straight => (hdirectories straight).2, hrun⟩
    · rw [succeeded] at hfailed
      cases hfailed

end Remote

/-- A machine with a bag and with rsync. -/
def mirrorDepot : World where
  machine := { depot.machine with
    files := {
      root := .directory
        [("bin", .directory [("rsync", .file [])]), ("in", .directory [("bag", .empty)])]
      working := [] }
    programs := [(["bin", "rsync"], .rsync)]
    searchPath := ["/bin"] }
  exchange := depot.exchange
  requests := []

/-- The configuration of the depot, with a remote machine. -/
def mirrorConfig : Config :=
  { depotConfig with appliance := ⟨"appliance", Config.defaultScheme, some "keeper", some "vault", false⟩ }

lemma fitsAround_bag : Space.FitsAround "/space/aips/bag" := by
  have hparent : Path.parent? "/space/aips/bag" = some ("/space/aips" : Text) := by
    cbv
  intro parent h
  cases hparent.symm.trans h
  exact ⟨by decide +kernel, by decide +kernel⟩

theorem remote_store_mirrors_bag :
    mirrorConfig.appliance.remote? = some ⟨"keeper", "vault"⟩ ∧
      Space.mirrored "/space/aips/bag" = ["space", "space/aips"] ∧
      ∃ m', Space.Deposits (Space.mirrored "/space/aips/bag") ⟨"keeper", "vault"⟩ "/in/bag" "/space/aips/bag"
        mirrorDepot.machine true m' := by
  have succeeded : (deposit (World.surroundings mirrorConfig) "/in/bag" "/space/aips/bag"
      ⟨mirrorDepot, newBag, []⟩).1.isOk = true := by
    decide +kernel
  have hremote : mirrorConfig.appliance.remote? = some ⟨"keeper", "vault"⟩ := by
    decide +kernel
  obtain ⟨m', -, -, -, -, deposits, -⟩ := (remote_store_mirrors hremote).1 "/space/aips/bag" (by decide)
    (by decide +kernel) (by decide +kernel) "/in/bag" ⟨mirrorDepot, newBag, []⟩
  rw [succeeded] at deposits
  exact ⟨hremote, by decide +kernel, m', deposits fitsAround_bag⟩

/-- A path with a name that is too long for a directory. -/
def longTarget : Text :=
  "/a/" ++ List.replicate 300 'n' ++ "/x"

/-- Where a name is too long, the directories cannot be made in the scratch directory, and rsync is not run. -/
theorem longTarget_notMirrored :
    Path.isAbsolute longTarget = true ∧ Path.segments longTarget ≠ [] ∧
      ['.', '.'] ∉ Path.segments longTarget ∧
      (deposit (World.surroundings mirrorConfig) "/in/bag" longTarget
        ⟨mirrorDepot, newBag, []⟩).1.isOk = false ∧
      (deposit (World.surroundings mirrorConfig) "/in/bag" longTarget
        ⟨mirrorDepot, newBag, []⟩).2.world.machine.runs = [] := by
  decide +kernel

end CommandLine

end Custodian
