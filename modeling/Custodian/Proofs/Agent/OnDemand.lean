import Custodian.Proofs.Agent.Persistence
import Custodian.Proofs.Agent.Requests

/-!
# Registration on demand

A question that needs the state of a package registers the package first if it has no identifier. It does
not matter whether this happens in the question or beforehand, by an announcement of the package at its own
place.

* `fetchStatus_eq_of_absent`: the question for the state of a package without an identifier goes on from
  where the announcement ends.
* `registration_on_demand`: an operation that consults the state is the announcement followed by the same
  operation, and if the announcement leaves the package without an identifier, it is the announcement alone.
-/

namespace Custodian.Agent

open Appliance
open Json (Value)

variable {σ α β : Type} {s : Surroundings σ} {scene : Scene σ Package}

/-- Whether an operation on a package consults the state of the package at the appliance. -/
def Operation.consultsState (p : Package) : Operation → Bool
  | .updateStatus => true
  | .checkFixity => !p.isCompressed
  | .isFileLocal path _ => p.isCompressed || path.isNone
  | .announce _ | .browse _ | .deletePath _ | .fetch .. | .deposit .. => false

/-- The scene after the package was announced at its own place. -/
def announced (s : Surroundings σ) (scene : Scene σ Package) : Scene σ Package :=
  (announce s (scene.held.fullPath s.spaceRoot) scene).2

/-! ### The announcement -/

lemma announced_course : Course s .none scene (announced s scene) :=
  announce_course _

lemma ensureRegistered_of_identifier {id : Text} (present : scene.held.identifier? = some id) :
    ensureRegistered s scene = (.ok (), scene) := by
  unfold ensureRegistered
  rw [Job.held_bind_run, present]
  rfl

/-- A registration on demand does what the announcement does, and keeps silent about what goes wrong. -/
lemma ensureRegistered_eq_announced (s : Surroundings σ) (scene : Scene σ Package) :
    (ensureRegistered s scene).2 = announced s scene := by
  unfold announced announce
  rw [Job.held_bind_run]
  rcases absent : scene.held.identifier? with _ | id
  · unfold ensureRegistered
    rw [Job.held_bind_run, absent]
    have hsilent : ((Job.outcome (register s (scene.held.fullPath s.spaceRoot)) >>=
        fun _ => pure () : Job σ Package Error Unit) scene).2 = (register s _ scene).2 :=
      bind_still fun _ _ => rfl
    have hloud : ((Job.mapError (TransferError.notAnnounced scene.held.display)
        (register s (scene.held.fullPath s.spaceRoot)) >>= fun _ => pure () :
          Job σ Package TransferError Unit) scene).2 = (register s _ scene).2 :=
      bind_still fun _ _ => rfl
    exact hsilent.trans hloud.symm
  · rw [ensureRegistered_of_identifier absent]
    rfl

/-! ### The question for the state -/

/-- What the question for the state comes to, from the scene after the announcement on. -/
lemma fetchStatus_eq_of_announced (s : Surroundings σ) (scene : Scene σ Package) :
    fetchStatus s scene = match (announced s scene).held.identifier? with
      | none => (.error .notRegistered, announced s scene)
      | some id => ask s (statusUrl s scene.held id) .package (announced s scene) := by
  have hfetch := fetchStatus_eq s scene
  rw [ensureRegistered_eq_announced] at hfetch
  exact hfetch

lemma fetchStatus_announced {id : Text} (present : (announced s scene).held.identifier? = some id) :
    fetchStatus s scene = fetchStatus s (announced s scene) := by
  rw [fetchStatus_eq_of_announced, present, fetchStatus_eq s (announced s scene),
    ensureRegistered_of_identifier present, present]
  dsimp only
  rw [announced_course.statusUrl]

lemma fetchStatus_unregistered (absent : (announced s scene).held.identifier? = none) :
    fetchStatus s scene = (.error .notRegistered, announced s scene) := by
  rw [fetchStatus_eq_of_announced, absent]

/-! ### Jobs that begin with this question -/

/-- A job that asks for the state first, when it runs on packages of the shape of `p`. -/
def BeginsWithState (s : Surroundings σ) (p : Package) (job : Job σ Package Error α) : Prop :=
  ∃ next : Value → Job σ Package Error α, ∀ scene : Scene σ Package, scene.held.shape = p.shape →
    job scene = (fetchStatus s >>= next) scene

namespace BeginsWithState

variable {job : Job σ Package Error α}

lemma bind {p : Package} (h : BeginsWithState s p job) (next : α → Job σ Package Error β) :
    BeginsWithState s p (job >>= next) := by
  obtain ⟨rest, h⟩ := h
  refine ⟨fun v => rest v >>= next, ?_⟩
  intro scene hshape
  rw [← bind_assoc, Job.bind_run, Job.bind_run, h scene hshape]

lemma announced {id : Text} (h : BeginsWithState s scene.held job)
    (present : (announced s scene).held.identifier? = some id) : job scene = job (announced s scene) := by
  obtain ⟨next, h⟩ := h
  rw [h scene rfl, h (Agent.announced s scene) announced_course.sameBeside.shape, Job.bind_run,
    Job.bind_run, fetchStatus_announced present]

lemma unregistered (h : BeginsWithState s scene.held job)
    (absent : (Agent.announced s scene).held.identifier? = none) :
    job scene = (.error .notRegistered, Agent.announced s scene) := by
  obtain ⟨next, h⟩ := h
  rw [h scene rfl, Job.bind_run, fetchStatus_unregistered absent]

end BeginsWithState

section Questions

variable {p : Package}

lemma reconcile_beginsWithState : BeginsWithState s p (reconcile s) :=
  ⟨_, fun _ _ => rfl⟩

/-- What is left to do about a compressed package once its state is known. -/
def consultRelease (path : Option Text) (state : Value) :
    Job σ Package Error (FileInfo × Option Text) := do
  let status ← Job.ofExcept (decode FileRelease.ofJson? .package state)
  match status.fileInformation with
  | some info => return (info, path)
  | none => throw .noFileInformation

/-- A look-up asks for the state unless it is about a file in a bag. -/
lemma consult_beginsWithState {path : Option Text} (h : (p.isCompressed || path.isNone) = true) :
    BeginsWithState s p (consult s path) := by
  unfold Package.isCompressed at h
  rcases hshape : p.shape with pointerFile | _ <;> rw [hshape] at h
  · refine ⟨consultRelease path, ?_⟩
    intro scene hscene
    unfold consult
    rw [Job.held_bind_run, hscene, hshape]
    rfl
  · rcases path with _ | path
    · refine ⟨consultBag s, ?_⟩
      intro scene hscene
      unfold consult
      rw [Job.held_bind_run, hscene, hshape]
      rfl
    · cases h

lemma locality_beginsWithState {path : Option Text} (tell : Bool)
    (h : (p.isCompressed || path.isNone) = true) : BeginsWithState s p (locality s path tell) :=
  (consult_beginsWithState h).bind _

lemma fixity_beginsWithState (bag : p.isCompressed = false) : BeginsWithState s p (fixity s) := by
  unfold Package.isCompressed at bag
  rcases hshape : p.shape with pointerFile | _ <;> rw [hshape] at bag
  · cases bag
  · refine ⟨fun v => Job.ofExcept (decode Manifest.ofJson? .package v) >>=
      fun m => Job.ofExcept (fixityReport m), ?_⟩
    intro scene hscene
    unfold fixity
    rw [Job.held_bind_run, hscene, hshape]

end Questions

/-! ### Operations -/

/-- What an operation answers that consults the state of a package in vain. -/
def Operation.inVain : Operation → Option Answer
  | .updateStatus => some (.status ⟨none, "Unable to contact Arkivum"⟩)
  | .checkFixity => some (.fixity (.ok (.failed "Unable to contact Arkivum")))
  | .isFileLocal .. => some (.local? none)
  | .announce _ | .browse _ | .deletePath _ | .fetch .. | .deposit .. => none

lemma attempts_eq_nil {events : List Event} (h : events.filterMap Event.saved? = []) :
    events.filterMap Event.attempt? = [] := by
  rw [List.filterMap_eq_nil_iff] at h ⊢
  intro e he
  have hnone := h e he
  cases e with
  | saved p outcome => cases hnone
  | _ => rfl

lemma perform_announced {id : Text} (present : (announced s scene).held.identifier? = some id)
    {op : Operation} (consults : op.consultsState scene.held = true) :
    op.perform s scene = op.perform s (announced s scene) := by
  cases op with
  | updateStatus =>
    dsimp only [Operation.perform, updateStatus]
    rw [reconcile_beginsWithState.announced present]
  | isFileLocal path tell =>
    dsimp only [Operation.perform, isFileLocal]
    rw [(locality_beginsWithState tell consults).announced present]
  | checkFixity =>
    have bag : scene.held.isCompressed = false := by simpa [Operation.consultsState] using consults
    dsimp only [Operation.perform, checkFixity]
    rw [(fixity_beginsWithState bag).announced present]
  | announce destination => cases consults
  | browse path => cases consults
  | deletePath path => cases consults
  | fetch source target => cases consults
  | deposit source target => cases consults

lemma perform_unregistered (absent : (announced s scene).held.identifier? = none)
    {op : Operation} (consults : op.consultsState scene.held = true) :
    op.inVain = some (op.perform s scene).1 ∧ (op.perform s scene).2 = announced s scene := by
  cases op with
  | updateStatus =>
    dsimp only [Operation.perform, updateStatus]
    rw [reconcile_beginsWithState.unregistered absent]
    exact ⟨rfl, rfl⟩
  | isFileLocal path tell =>
    dsimp only [Operation.perform, isFileLocal]
    rw [(locality_beginsWithState tell consults).unregistered absent]
    exact ⟨rfl, rfl⟩
  | checkFixity =>
    have bag : scene.held.isCompressed = false := by simpa [Operation.consultsState] using consults
    dsimp only [Operation.perform, checkFixity]
    rw [(fixity_beginsWithState bag).unregistered absent]
    exact ⟨rfl, rfl⟩
  | announce destination => cases consults
  | browse path => cases consults
  | deletePath path => cases consults
  | fetch source target => cases consults
  | deposit source target => cases consults

/-- **Registration on demand is the announcement.** Announce a package at its own place. Whatever the
surroundings answer, an operation that consults the state of the package:

* if the package then has an identifier, be it saved or not, has the outcome of the same operation after
  the announcement: its answer, the package, and all that has happened by then. So its requests are those
  of the announcement followed by those of the operation after it, and so are its attempts to save;
* if not, asks for what the announcement asks for, saves nothing, leaves the package as it is, and tells
  that the appliance was not reached. -/
theorem registration_on_demand (s : Surroundings σ) (scene : Scene σ Package) (op : Operation)
    (consults : op.consultsState scene.held = true) :
    let early := (Operation.announce (scene.held.fullPath s.spaceRoot)).perform s scene
    let late := op.perform s scene
    (∀ id, early.2.held.identifier? = some id →
      let after := op.perform s early.2
      late = after ∧
        requests (scene.since late.2) =
          requests (scene.since early.2) ++ requests (early.2.since after.2) ∧
        (scene.since late.2).filterMap Event.attempt? =
          (scene.since early.2).filterMap Event.attempt? ++
            (early.2.since after.2).filterMap Event.attempt?) ∧
    (early.2.held.identifier? = none →
      op.inVain = some late.1 ∧ late.2 = early.2 ∧ late.2.held = scene.held ∧
        requests (scene.since late.2) = requests (scene.since early.2) ∧
        (scene.since late.2).filterMap Event.attempt? = []) := by
  intro early late
  have announcement : Course s .none scene early.2 := announced_course
  refine ⟨?_, ?_⟩
  · intro id present after
    have hlate : late = after := perform_announced present consults
    have rest : Course s .all early.2 after.2 :=
      (perform_course op).mono (fun _ => trivial) fun _ => trivial
    have hsince : scene.since late.2 = scene.since early.2 ++ early.2.since after.2 := by
      rw [hlate, (announcement.of_none .all).since_append rest]
    refine ⟨hlate, ?_, ?_⟩
    · rw [hsince, requests_append]
    · rw [hsince, List.filterMap_append]
  · intro absent
    obtain ⟨hanswer, hlate⟩ : op.inVain = some late.1 ∧ late.2 = early.2 :=
      perform_unregistered absent consults
    have hheld : early.2.held = scene.held := announcement.held_of_absent absent
    have hsaved : (scene.since early.2).filterMap Event.saved? = [] := by
      rw [announcement.saved_eq_changes, hheld, changes_self]
    rw [hlate]
    exact ⟨hanswer, rfl, hheld, rfl, attempts_eq_nil hsaved⟩

/-- An appliance that registers every bag and reports it green; the store fails as often as its state
says. -/
def openAppliance : Surroundings Nat :=
  { greenAppliance with
    exchange := fun _ failures =>
      (.answered 200 (Utf8.encode (Value.object [(idName, .string "r1"),
        (Replication.fieldName, .string "green")]).compact), failures) }

/-- A bag that was never registered, at the start of a run. -/
def unregistered (failures : Nat) : Scene Nat Package :=
  ⟨failures, { stagedBag with attributes := [] }, []⟩

/-- A bag that is asked for before it is registered. At first the store fails and the appliance gives an
identifier, which is not saved; then the appliance gives none. -/
theorem registration_on_demand_unsaved :
    let early := (Operation.announce "/space/aips/bag").perform openAppliance (unregistered 1)
    early.2.held.identifier? = some "r1" ∧
      Operation.updateStatus.perform openAppliance (unregistered 1) =
        Operation.updateStatus.perform openAppliance early.2 ∧
      Operation.checkFixity.inVain =
        some (Operation.checkFixity.perform greenAppliance (unregistered 0)).1 := by
  have late := registration_on_demand openAppliance (unregistered 1) .updateStatus rfl
  have vain := registration_on_demand greenAppliance (unregistered 0) .checkFixity rfl
  have given : (announced openAppliance (unregistered 1)).held.identifier? = some "r1" := by
    decide +kernel
  refine ⟨given, ?_, ?_⟩
  · exact (late.1 "r1" given).1
  · exact (vain.2 (by decide +kernel)).1

end Custodian.Agent
