import Custodian.Proofs.CommandLine.Invocations
import Custodian.Proofs.Space.Copying

/-!
# Transfers without a remote machine

* `createLocally_run`, `move_run`: the steps of a transfer, as calls on the machine.
* `local_transfer_exclusive`: a deposit renames its source or copies it with rsync, never both, and a package
  that is fetched is always copied. Nothing else happens to the files, and neither happens unless the
  directories around the target could be made.
-/

namespace Custodian.CommandLine

open Agent

/-! ### Steps of a transfer -/

section Steps

variable {π : Type} {c : Config}

/-- What a call in the space comes to for a job. -/
def outcomeOf {α : Type} (r : Except Space.Error α) : Except TransferError α :=
  (r.mapError Space.Error.message).mapError .space

@[simp]
lemma isOk_outcomeOf {α : Type} (r : Except Space.Error α) : (outcomeOf r).isOk = r.isOk := by
  cases r <;> rfl

lemma createLocally_run (target : Text) (scene : Scene World π) :
    createLocally (World.surroundings c) target scene =
      (outcomeOf (Space.createLocalDirectory target scene.world.machine).1,
        scene.after ((World.surroundings c).createLocalDirectory target) (.createdLocally target)) := rfl

lemma createRemotely_run (target : Text) (remote : Remote) (scene : Scene World π) :
    createRemotely (World.surroundings c) target remote scene =
      (outcomeOf (Space.createRemoteDirectory target remote scene.world.machine).1,
        scene.after ((World.surroundings c).createRemoteDirectory target remote)
          (.createdRemotely target remote)) := rfl

lemma move_run (source target : Text) (tryRename : Bool) (scene : Scene World π) :
    move (World.surroundings c) source target tryRename scene =
      (outcomeOf (Space.move source target tryRename scene.world.machine).1,
        scene.after ((World.surroundings c).move source target tryRename)
          (.moved source target tryRename)) := rfl

/-- The directories around a target are made, and then something is moved there. -/
lemma transfers_createThenMove {origin target : Text} {tryRename : Bool}
    {moves : Machine → Bool → Machine → Prop}
    (hmoves : ∀ m, moves m (Space.move origin target tryRename m).1.isOk
      (Space.move origin target tryRename m).2) (scene : Scene World π) :
    ∃ m', Space.Transfers target moves scene.world.machine
        ((createLocally (World.surroundings c) target >>= fun _ =>
          move (World.surroundings c) origin target tryRename) scene).1.isOk m' ∧
      ((createLocally (World.surroundings c) target >>= fun _ =>
          move (World.surroundings c) origin target tryRename) scene).2.world =
        { scene.world with machine := m' } := by
  have prepares := Space.createLocalDirectory_prepares target scene.world.machine
  have hworld : (createLocally (World.surroundings c) target scene).2.world =
      { scene.world with machine := (Space.createLocalDirectory target scene.world.machine).2 } := rfl
  rcases hmade : Space.createLocalDirectory target scene.world.machine with ⟨e | ⟨⟩, made⟩ <;>
    rw [hmade] at prepares hworld
  · have hcreate : (createLocally (World.surroundings c) target scene).1 = .error (.space e.message) := by
      rw [createLocally_run, hmade]
      rfl
    rw [Job.bind_run_error hcreate]
    exact ⟨made, .unprepared hmade prepares, hworld⟩
  · have hcreate : (createLocally (World.surroundings c) target scene).1 = .ok () := by
      rw [createLocally_run, hmade]
      rfl
    rw [Job.bind_run_ok hcreate, move_run, hworld, isOk_outcomeOf]
    refine ⟨_, .prepared hmade prepares (hmoves made), ?_⟩
    rw [Scene.after_world, hworld]
    rfl

end Steps

/-! ### Both ways -/

section Local

variable {π : Type} {c : Config}

/-- **A transfer on one machine renames or copies, never both, and loses nothing.** Without a remote machine, a
deposit first makes the directories around its target. If this fails, it fails, and nothing else happens. Then
it renames its source, runs nothing and succeeds; or its source cannot be renamed, rsync is tried once, with the
source and the target as its last arguments, and the deposit succeeds just if rsync does. A package that is
fetched is never renamed: the directories are made, and rsync is tried once. -/
theorem local_transfer_exclusive (here : c.appliance.remote? = none) (source target : Text)
    (scene : Scene World π) :
    (∃ m', Space.Transfers target (Space.MovesOrCopies source target) scene.world.machine
        (deposit (World.surroundings c) source target scene).1.isOk m' ∧
      (deposit (World.surroundings c) source target scene).2.world = { scene.world with machine := m' }) ∧
    ∃ m', Space.Transfers target (Space.CopiesTo source target) scene.world.machine
        (fetch (World.surroundings c) source target scene).1.isOk m' ∧
      (fetch (World.surroundings c) source target scene).2.world = { scene.world with machine := m' } := by
  have hremote : (World.surroundings c).remote? = none := here
  have hdeposit : (deposit (World.surroundings c) source target : Job World π TransferError Unit) =
      createLocally (World.surroundings c) target >>= fun _ =>
        move (World.surroundings c) source target true := by
    unfold deposit
    rw [hremote]
  have hfetch : (fetch (World.surroundings c) source target : Job World π TransferError Unit) =
      createLocally (World.surroundings c) target >>= fun _ =>
        move (World.surroundings c) source target false := by
    unfold fetch
    rw [hremote]
  rw [hdeposit, hfetch]
  exact ⟨transfers_createThenMove (Space.move_moves source target) scene,
    transfers_createThenMove (Space.moveWithRsync_copies source target) scene⟩

theorem local_transfer_exclusive_bag :
    depotConfig.appliance.remote? = none ∧
      ∃ m', Space.Transfers "/space/new/bag" (Space.MovesOrCopies "/in/bag" "/space/new/bag")
        depot.machine true m' := by
  have moved : (deposit (World.surroundings depotConfig) "/in/bag" "/space/new/bag"
      ⟨depot, newBag, []⟩).1.isOk = true := by
    decide +kernel
  obtain ⟨⟨m', transfers, -⟩, -⟩ :=
    local_transfer_exclusive (c := depotConfig) rfl "/in/bag" "/space/new/bag" ⟨depot, newBag, []⟩
  rw [moved] at transfers
  exact ⟨rfl, m', transfers⟩

end Local

end Custodian.CommandLine
