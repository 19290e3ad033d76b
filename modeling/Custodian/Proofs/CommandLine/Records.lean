import Custodian.CommandLine.Execute
import Custodian.Proofs.Agent.Perform
import Custodian.Proofs.RecordStore

/-!
# Commands and records

What a command does to the package it is about, it does also to the record of this package, as long as
every save works: between any two steps, the record is the package that is held (`Recorded`). The records
of other packages stay as they are. Besides saves, only the moves of deposits change files, and they spare
the store (`MovesSpare`).
-/

namespace Custodian

/-! ### Calls that change no files -/

lemma Machine.run_files (command : Text) (arguments : List Text) (input : Text)
    (scratch : Option (List Text)) (m : Machine) :
    (m.run command arguments input scratch).2.files = m.files := by
  unfold Machine.run
  split
  · rfl
  · split <;> rfl

lemma Mailer.send_files (config : MailConfig) (mail : Mail) (m : Machine) :
    (Mailer.send config mail m).2.files = m.files := by
  have hrun := m.run_files config.sendmailPath ["-t", "-i"] (mail.render config.fromEmail) none
  unfold Mailer.send
  split <;> simp_all

namespace Space

lemma runRsync_files (arguments : List Text) (scratch : Option (List Text)) (m : Machine) :
    (runRsync arguments scratch m).2.files = m.files := by
  have hrun := m.run_files Program.rsync.name arguments [] scratch
  unfold runRsync
  split
  · simp_all
  · split <;> simp_all

lemma moveWithRsync_files (source target : Text) (m : Machine) :
    (moveWithRsync source target m).2.files = m.files := by
  unfold moveWithRsync
  dsimp only
  split <;> next h => exact congrArg (·.2.files) h ▸ runRsync_files _ _ m

lemma createRemoteDirectory_files (path : Text) (remote : Remote) (m : Machine) :
    (createRemoteDirectory path remote m).2.files = m.files := by
  unfold createRemoteDirectory
  split
  · rfl
  · split
    · rfl
    · dsimp only
      split <;> next h => exact congrArg (·.2.files) h ▸ runRsync_files _ _ m

lemma createLocalDirectory_grows (path : Text) (m : Machine) :
    FileTree.Grows m.files (createLocalDirectory path m).2.files := by
  unfold createLocalDirectory
  split
  · exact .refl _
  · next parent _ =>
    have grows := FileTree.makeDirectories_grows m.files parent
    split <;> next h =>
      rw [h] at grows
      exact grows

lemma move_files (source target : Text) (tryRename : Bool) (m : Machine) :
    (tryRename = true ∧ m.files.rename source target = .ok (move source target tryRename m).2.files) ∨
      (move source target tryRename m).2.files = m.files := by
  unfold move
  split
  · next htry =>
    split
    · next files hrename => exact .inl ⟨htry, hrename⟩
    · exact .inr (moveWithRsync_files source target m)
  · exact .inr (moveWithRsync_files source target m)

end Space

namespace CommandLine

open Agent Appliance
open RecordStore (IsSound SameRecords load)

/-! ### Steps -/

/-- Whether an event is no save, or one that has worked. -/
def saveWorks : Event → Bool
  | .saved _ (.error _) => false
  | _ => true

/-- Every save among some events has worked. -/
def SavesWork (events : List Event) : Prop :=
  ∀ e ∈ events, saveWorks e = true

instance (events : List Event) : Decidable (SavesWork events) :=
  inferInstanceAs (Decidable (∀ e ∈ events, saveWorks e = true))

lemma SavesWork.mono {events events' : List Event} (h : SavesWork events') (sub : events ⊆ events') :
    SavesWork events :=
  fun e he => h e (sub he)

lemma SavesWork.outcome {events : List Event} (h : SavesWork events) {p : Package}
    {outcome : Except Text Unit} (hmem : .saved p outcome ∈ events) : outcome = .ok () := by
  rcases outcome with reason | ⟨⟩
  · cases h _ hmem
  · rfl

/-- The record of the uuid is the package that is held, and the other records are those of the files
before. -/
structure Recorded (path uuid : Text) (before : FileTree) (scene : Scene World Package) : Prop where
  sound : IsSound path scene.world.machine.files
  held : load path uuid scene.world.machine.files = .ok scene.held
  others : ∀ other, other ≠ uuid → ∀ p,
    load path other scene.world.machine.files = .ok p ↔ load path other before = .ok p

section Steps

variable {c : Config} {path uuid : Text} {before : FileTree} {scope : Scope}
  {a b : Scene World Package}

/-- Nothing happens to the records. -/
lemma Recorded.of_same (h : Recorded path uuid before a) (held : b.held = a.held)
    (sound : IsSound path b.world.machine.files)
    (same : SameRecords path a.world.machine.files b.world.machine.files) :
    Recorded path uuid before b where
  sound := sound
  held := by
    rw [held]
    exact (same uuid a.held).2 h.held
  others other hother p := (same other p).trans (h.others other hother p)

lemma Recorded.of_files (h : Recorded path uuid before a) (held : b.held = a.held)
    (files : b.world.machine.files = a.world.machine.files) : Recorded path uuid before b :=
  h.of_same held (files ▸ h.sound) fun other p => by rw [files]

lemma save_files {p : Package} {w : World} (h : ((World.surroundings c).save p w).1 = .ok ()) :
    RecordStore.save c.storePath p w.machine.files =
      (.ok (), ((World.surroundings c).save p w).2.machine.files) := by
  change ((RecordStore.save c.storePath p w.machine.files).1.mapError RecordStore.Error.message) =
    .ok () at h
  change _ = (Except.ok (), (RecordStore.save c.storePath p w.machine.files).2)
  rcases hsave : RecordStore.save c.storePath p w.machine.files with ⟨e | ⟨⟩, files⟩
  · rw [hsave] at h
    cases h
  · rfl

lemma Recorded.keep (h : Recorded c.storePath uuid before a) {p : Package} (own : p.uuid = a.held.uuid)
    (plain : p.IsPlain) (integers : (Json.Value.object p.attributes).hasIntegers = true)
    (works : ((World.surroundings c).save p a.world).1 = .ok ()) :
    Recorded c.storePath uuid before (a.keep (World.surroundings c) p) := by
  obtain ⟨hsound, hself, hothers⟩ := h.sound.save plain integers (save_files works)
  have huuid : p.uuid = uuid := own.trans (h.sound.own uuid a.held h.held)
  rw [huuid] at hself hothers
  refine ⟨hsound, hself, ?_⟩
  intro other hother q
  exact (hothers other hother q).trans (h.others other hother q)

lemma send_files (mail : Mail) (w : World) :
    ((World.surroundings c).send mail w).2.machine.files = w.machine.files :=
  Mailer.send_files c.mail mail w.machine

/-- **A step keeps the package on record**, if it transfers nothing and its save works. -/
theorem Recorded.step (h : Recorded c.storePath uuid before a)
    (step : Step (World.surroundings c) scope a b) (still : ¬scope.transfers)
    (works : SavesWork (a.since b)) : Recorded c.storePath uuid before b := by
  have plain := h.sound.isPlain h.held
  have integers := h.sound.integers uuid a.held h.held
  cases step with
  | requested => exact h.of_files rfl rfl
  | refused => exact h.of_files rfl rfl
  | registered request id absent post accepted =>
    rw [Scene.since_after_keep] at works
    have hworks := works.outcome (List.mem_cons_of_mem _ List.mem_cons_self)
    have hmid : Recorded c.storePath uuid before
        (a.after ((World.surroundings c).exchange request) (.exchanged request)) := h.of_files rfl rfl
    exact hmid.keep rfl (plain.setIdentifier id) (Package.hasIntegers_setIdentifier integers id) hworks
  | marked allowed id present fresh =>
    rw [Scene.since_keep] at works
    exact h.keep rfl plain integers (works.outcome List.mem_cons_self)
  | told mail => exact h.of_files rfl (send_files mail a.world)
  | transferred allowed => exact absurd allowed still

theorem Recorded.course (h : Recorded c.storePath uuid before a)
    (course : Course (World.surroundings c) scope a b) (still : ¬scope.transfers)
    (works : SavesWork (a.since b)) : Recorded c.storePath uuid before b := by
  induction course with
  | refl => exact h
  | tail course step ih =>
    rw [Course.since_tail course step] at works
    exact (ih (works.mono (List.subset_append_left _ _))).step step still
      (works.mono (List.subset_append_right _ _))

end Steps

/-! ### Deposits -/

/-- A move spares the store: if the source is renamed at all, neither the source nor the target lies in
its directory, and the way to this directory leads through neither of them. -/
def MoveSpares (path source target : Text) (t : FileTree) : Prop :=
  ∀ place a b t', t.Names path place → t.entry source = .ok a → t.entry target = .ok b →
    t.rename source target = .ok t' → t.Spares path place a.place b.place

section Deposits

variable {c : Config} {path uuid source target : Text} {before : FileTree} {a : Scene World Package}

lemma Recorded.createLocally (h : Recorded path uuid before a) (target : Text) :
    Recorded path uuid before (createLocally (World.surroundings c) target a).2 := by
  obtain ⟨sound, same⟩ := h.sound.of_grows (Space.createLocalDirectory_grows target a.world.machine)
  exact h.of_same rfl sound same

lemma Recorded.move (h : Recorded path uuid before a) {tryRename : Bool}
    (spares : tryRename = true → MoveSpares path source target a.world.machine.files) :
    Recorded path uuid before (move (World.surroundings c) source target tryRename a).2 := by
  rcases Space.move_files source target tryRename a.world.machine with ⟨htry, hrename⟩ | hfiles
  · obtain ⟨from', to', node, hfrom, hto, -, hcases⟩ := FileTree.rename_cases hrename
    rcases hcases with ⟨-, hsame⟩ | ⟨-, hput⟩
    · exact h.of_files rfl hsame
    · obtain ⟨sound, same⟩ := h.sound.of_renamed (by simp [FileTree.Entry.place])
        (by simp [FileTree.Entry.place])
        (fun place names => spares htry place from' to' _ names hfrom hto hrename) hput
      exact h.of_same rfl sound same
  · exact h.of_files rfl hfiles

/-- **A deposit keeps the package on record**, if its move spares the store. -/
theorem Recorded.deposit (h : Recorded path uuid before a)
    (spares : c.appliance.remote? = none →
      (Space.createLocalDirectory target a.world.machine).1 = .ok () →
        MoveSpares path source target (Space.createLocalDirectory target a.world.machine).2.files) :
    Recorded path uuid before (deposit (World.surroundings c) source target a).2 := by
  have hremote : (World.surroundings c).remote? = c.appliance.remote? := rfl
  unfold Agent.deposit
  rw [hremote]
  rcases hc : c.appliance.remote? with _ | remote <;> dsimp only
  · have hcreated : Recorded path uuid before
        (Agent.createLocally (World.surroundings c) target a).2 := h.createLocally target
    rcases hmade : (Agent.createLocally (World.surroundings c) target a).1 with e | ⟨⟩
    · rw [Job.bind_run_error hmade]
      exact hcreated
    · rw [Job.bind_run_ok hmade]
      apply hcreated.move
      intro _
      apply spares hc
      change (((Space.createLocalDirectory target a.world.machine).1.mapError
        Space.Error.message).mapError TransferError.space) = .ok () at hmade
      rcases hlocal : (Space.createLocalDirectory target a.world.machine).1 with e | ⟨⟩
      · rw [hlocal] at hmade
        cases hmade
      · rfl
  · have hcreated : Recorded path uuid before
        (createRemotely (World.surroundings c) target remote a).2 :=
      h.of_files rfl (Space.createRemoteDirectory_files target remote a.world.machine)
    rcases hmade : (createRemotely (World.surroundings c) target remote a).1 with e | ⟨⟩
    · rw [Job.bind_run_error hmade]
      exact hcreated
    · rw [Job.bind_run_ok hmade]
      exact hcreated.move (by rintro ⟨⟩)

end Deposits

/-! ### Commands -/

/-- The uuid of the package that a task is about, if it is about one. -/
def Task.uuid? : Task → Option Text
  | .alone _ => none
  | .withPackage uuid _ => some uuid

/-- The uuid of the package that a command registers or asks about. -/
def Command.asked? : Command → Option Text
  | .register uuid | .status uuid | .locality uuid _ _ | .fixity uuid => some uuid
  | _ => none

/-- The move of a command, if it deposits a package on this machine, spares the store. -/
def CommandSpares (c : Config) (scene : Scene World Package) : Command → Prop
  | .store _ source =>
    let target := scene.held.fullPath c.spacePath
    let made := Space.createLocalDirectory target scene.world.machine
    c.appliance.remote? = none → made.1 = .ok () → MoveSpares c.storePath source target made.2.files
  | _ => True

section Commands

variable {c : Config} {command : Command} {uuid : Text} {before : FileTree}
  {scene : Scene World Package} {run : Scene World Package → Outcome × Scene World Package}

lemma announceThen_run (s : Surroundings World) (destination : Text) (value : Package → Json.Value)
    (scene : Scene World Package) :
    (announceThen s destination value scene).2 = (announce s destination scene).2 := by
  unfold announceThen
  rcases announce s destination scene with ⟨_ | ⟨⟩, _⟩ <;> rfl

/-- A package that could not be moved is not announced. -/
lemma depositThen_run (s : Surroundings World) (source destination : Text)
    (value : Package → Json.Value) (scene : Scene World Package) :
    (depositThen s source destination value scene).2 = (deposit s source destination scene).2 ∨
      (depositThen s source destination value scene).2 =
        (announce s destination (deposit s source destination scene).2).2 := by
  unfold depositThen
  rcases deposit s source destination scene with ⟨_ | ⟨⟩, moved⟩
  · exact .inl rfl
  · exact .inr (announceThen_run s destination value moved)

/-- Registering a package or asking about one is a course that transfers nothing. -/
lemma Command.exists_run (c : Config) (h : command.asked? = some uuid) :
    ∃ run, Task.ofCommand c command = .withPackage uuid run ∧
      ∀ scene, ∃ scope : Scope, ¬scope.transfers ∧
        Course (World.surroundings c) scope scene (run scene).2 := by
  cases command with
  | register uuid =>
    cases h
    refine ⟨_, rfl, fun scene => ⟨.none, id, ?_⟩⟩
    rw [announceThen_run]
    exact announce_course _
  | status uuid =>
    cases h
    exact ⟨_, rfl, fun scene => ⟨_, id, updateStatus_course⟩⟩
  | locality uuid path tell =>
    cases h
    exact ⟨_, rfl, fun scene => ⟨.none, id, isFileLocal_course path tell⟩⟩
  | fixity uuid =>
    cases h
    exact ⟨_, rfl, fun scene => ⟨.none, id, checkFixity_course⟩⟩
  | delete path => cases h
  | store uuid source => cases h
  | fetch source target => cases h
  | browse path => cases h

theorem run_course (h : Task.ofCommand c command = .withPackage uuid run) :
    Course (World.surroundings c) .all scene (run scene).2 := by
  rcases asked : command.asked? with _ | other
  · cases command with
    | store uuid source =>
      cases h
      have moved : Course (World.surroundings c) .all scene _ :=
        deposit_course trivial source (scene.held.fullPath c.spacePath)
      rcases depositThen_run (World.surroundings c) source (scene.held.fullPath c.spacePath)
        Package.toJson scene with h | h <;> rw [h]
      · exact moved
      · exact moved.trans (announce_course _)
    | register uuid | status uuid | locality uuid path tell | fixity uuid => cases asked
    | delete path | fetch source target | browse path => cases h
  · obtain ⟨_, htask, hrun⟩ := command.exists_run c asked
    cases h.symm.trans htask
    obtain ⟨scope, -, course⟩ := hrun scene
    exact course.mono (fun _ => trivial) fun _ => trivial

/-- **A command keeps the package on record**, if its saves work and its move spares the store. -/
theorem Recorded.carriedOut (h : Recorded c.storePath uuid before scene)
    (hrun : Task.ofCommand c command = .withPackage uuid run)
    (works : SavesWork (scene.since (run scene).2)) (spares : CommandSpares c scene command) :
    Recorded c.storePath uuid before (run scene).2 := by
  rcases asked : command.asked? with _ | other
  · cases command with
    | store uuid source =>
      cases hrun
      have hmoved := h.deposit spares
      have moved : Course (World.surroundings c) .all scene _ :=
        deposit_course trivial source (scene.held.fullPath c.spacePath)
      have announced : ∀ mid, Course (World.surroundings c) .none mid
          (announce (World.surroundings c) (scene.held.fullPath c.spacePath) mid).2 := by
        intro mid
        exact announce_course _
      rcases depositThen_run (World.surroundings c) source (scene.held.fullPath c.spacePath)
        Package.toJson scene with h | h <;> rw [h] at works ⊢
      · exact hmoved
      · rw [moved.since_append ((announced _).of_none _)] at works
        exact hmoved.course (announced _) id (works.mono (List.subset_append_right _ _))
    | register uuid | status uuid | locality uuid path tell | fixity uuid => cases asked
    | delete path | fetch source target | browse path => cases hrun
  · obtain ⟨_, htask, hcourse⟩ := command.exists_run c asked
    cases hrun.symm.trans htask
    obtain ⟨scope, still, course⟩ := hcourse scene
    exact h.course course still works

end Commands

end CommandLine

end Custodian
