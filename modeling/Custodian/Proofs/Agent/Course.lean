import Custodian.Proofs.Agent.Job
import Mathlib.Logic.Relation

/-!
# What an operation does, step by step

An operation is a course of steps: requests, registrations, saves, mails and transfers. `Step` says
once what a single step may do to the package that is held and to the record of events; what holds of
every operation and every run is then an induction over a course.

* `Course.mono`: what may happen in a narrow scope may happen in a wide one.
* `Course.events_eq`: a course only adds events, and those of two courses follow one another
  (`Course.since_append`).
-/

namespace Custodian.Agent

open Appliance Relation
open Json (Value)

variable {σ π ε α β : Type}

/-! ### Kinds of events -/

/-- Whether a request asks for the state of the package of an identifier. -/
def AsksStatus (e : Endpoints) (request : Request) (id : Text) : Prop :=
  request.method = .get ∧ (request.url = e.fileReleaseStatus id ∨ request.url = e.manifestStatus id)

namespace Event

/-- Whether an event is a request that registers a package. -/
def isRegistration : Event → Bool
  | .exchanged request _ => request.method = .post
  | _ => false

/-- The identifier in an acceptable answer to a registration: the status is 200 or 202, and the body is
JSON with an `id` that names one. -/
def acceptedId? : Event → Option Text
  | .exchanged request (.answered status body) =>
    if request.method = .post ∧ (status = 200 ∨ status = 202) then
      (Value.read? (Utf8.decodeForgiving body)).bind fun v => (v.get? idName).bind idText?
    else none
  | _ => none

/-- The package that was to be saved. -/
def saved? : Event → Option Package
  | .saved p _ => some p
  | _ => none

/-- Whether an event moves or lists files of the space. -/
def isTransfer : Event → Bool
  | .createdLocally .. | .createdRemotely .. | .moved .. => true
  | .browsedLocally .. | .browsedRemotely .. => true
  | _ => false

lemma isRegistration_of_acceptedId? {e : Event} {id : Text} (h : e.acceptedId? = some id) :
    e.isRegistration = true := by
  unfold acceptedId? at h
  split at h
  · split at h
    · next hm => simpa [isRegistration] using hm.1
    · cases h
  · cases h

end Event

/-! ### Steps -/

/-- What may happen in the course of an operation beside questions, registrations and mails. -/
structure Scope where
  /-- The package may be marked as uploaded. -/
  marks : Prop
  /-- Files may be moved and listed. -/
  transfers : Prop

/-- The scope of a whole run. -/
def Scope.all : Scope := ⟨True, True⟩

/-- The scope of registrations and of questions that change nothing. -/
def Scope.none : Scope := ⟨False, False⟩

/-- One step of an operation. A package without an identifier may be registered, one with an
identifier may be marked as uploaded; each change is saved at once. -/
inductive Step (s : Surroundings σ) (scope : Scope) : Scene σ Package → Scene σ Package → Prop
  /-- A request that registers nothing. If it asks for the state of a package, then of the one held. -/
  | requested {scene : Scene σ Package} (request : Request) (not_post : request.method ≠ .post)
      (own : ∀ id, AsksStatus s.endpoints request id → scene.held.identifier? = some id) :
      Step s scope scene (scene.after (s.exchange request) (.exchanged request))
  /-- A registration without an acceptable answer. -/
  | refused {scene : Scene σ Package} (request : Request) (absent : scene.held.identifier? = Option.none)
      (post : request.method = .post)
      (refused : (Event.exchanged request (s.exchange request scene.world).1).acceptedId? = Option.none) :
      Step s scope scene (scene.after (s.exchange request) (.exchanged request))
  /-- A registration with an acceptable answer. -/
  | registered {scene : Scene σ Package} (request : Request) (id : Text)
      (absent : scene.held.identifier? = Option.none) (post : request.method = .post)
      (accepted : (Event.exchanged request (s.exchange request scene.world).1).acceptedId? = some id) :
      Step s scope scene
        ((scene.after (s.exchange request) (.exchanged request)).keep s (scene.held.setIdentifier id))
  /-- The package becomes uploaded. -/
  | marked {scene : Scene σ Package} (allowed : scope.marks) (id : Text)
      (present : scene.held.identifier? = some id) (fresh : scene.held.status ≠ .uploaded) :
      Step s scope scene (scene.keep s { scene.held with status := .uploaded })
  /-- A mail is sent. -/
  | told {scene : Scene σ Package} (mail : Mail) :
      Step s scope scene (scene.after (s.send mail) (.sent mail))
  /-- Files are moved or listed. -/
  | transferred {scene : Scene σ Package} {β : Type} (allowed : scope.transfers) (call : σ → β × σ)
      (event : β → Event) (transfer : ∀ b, (event b).isTransfer = true) :
      Step s scope scene (scene.after call event)

/-- A course: steps one after the other. -/
abbrev Course (s : Surroundings σ) (scope : Scope) : Scene σ Package → Scene σ Package → Prop :=
  ReflTransGen (Step s scope)

lemma Step.mono {s : Surroundings σ} {scope scope' : Scope} {a b : Scene σ Package}
    (marks : scope.marks → scope'.marks) (transfers : scope.transfers → scope'.transfers)
    (h : Step s scope a b) : Step s scope' a b := by
  cases h with
  | requested request not_post own => exact .requested request not_post own
  | refused request absent post refused => exact .refused request absent post refused
  | registered request id absent post accepted => exact .registered request id absent post accepted
  | marked allowed id present fresh => exact .marked (marks allowed) id present fresh
  | told mail => exact .told mail
  | transferred allowed call event transfer =>
    exact .transferred (transfers allowed) call event transfer

/-- What may happen in a narrow scope may happen in a wide one. -/
lemma Course.mono {s : Surroundings σ} {scope scope' : Scope} {a b : Scene σ Package}
    (h : Course s scope a b) (marks : scope.marks → scope'.marks)
    (transfers : scope.transfers → scope'.transfers) : Course s scope' a b :=
  h.lift id fun _ _ step => step.mono marks transfers

lemma Course.of_none {s : Surroundings σ} {a b : Scene σ Package} (h : Course s .none a b)
    (scope : Scope) : Course s scope a b :=
  h.mono False.elim False.elim

/-! ### The events of a course -/

/-- The events between two scenes. -/
def Scene.since (earlier later : Scene σ π) : List Event :=
  later.events.drop earlier.events.length

@[simp]
lemma Scene.since_self (scene : Scene σ π) : scene.since scene = [] := by
  simp [Scene.since]

lemma Scene.since_of_eq {a b : Scene σ π} {new : List Event} (h : b.events = a.events ++ new) :
    a.since b = new := by
  simp [Scene.since, h]

@[simp]
lemma Scene.since_after (call : σ → β × σ) (event : β → Event) (scene : Scene σ π) :
    scene.since (scene.after call event) = [event (call scene.world).1] :=
  since_of_eq rfl

@[simp]
lemma Scene.since_keep (s : Surroundings σ) (p : Package) (scene : Scene σ Package) :
    scene.since (scene.keep s p) = [.saved p (s.save p scene.world).1] :=
  since_of_eq rfl

lemma Scene.since_after_keep (s : Surroundings σ) (p : Package) (call : σ → β × σ)
    (event : β → Event) (scene : Scene σ Package) :
    scene.since ((scene.after call event).keep s p) =
      [event (call scene.world).1, .saved p (s.save p (call scene.world).2).1] :=
  since_of_eq (by simp [Scene.after])

section Events

variable {s : Surroundings σ} {scope : Scope} {a b c : Scene σ Package}

lemma Step.events_eq (h : Step s scope a b) : b.events = a.events ++ a.since b := by
  cases h <;> simp [Scene.since_after_keep]

/-- Events are only added. -/
lemma Course.events_eq (h : Course s scope a b) : b.events = a.events ++ a.since b := by
  induction h with
  | refl => simp
  | @tail b c _ step ih =>
    have hc : c.events = a.events ++ (a.since b ++ b.since c) := by
      rw [step.events_eq, ← List.append_assoc, ← ih]
    rw [Scene.since_of_eq hc, hc]

lemma Course.since_append (hab : Course s scope a b) (hbc : Course s scope b c) :
    a.since c = a.since b ++ b.since c :=
  Scene.since_of_eq (by rw [hbc.events_eq, ← List.append_assoc, ← hab.events_eq])

lemma Course.since_tail (hab : Course s scope a b) (hbc : Step s scope b c) :
    a.since c = a.since b ++ b.since c :=
  hab.since_append (.single hbc)

end Events

end Custodian.Agent
