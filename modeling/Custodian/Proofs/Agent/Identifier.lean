import Custodian.Proofs.Agent.Perform
import Custodian.Proofs.Json.Written

/-!
# A package is registered once

A package that has an identifier keeps it and is not registered again (`Course.identifier_kept`). A
package without one has, after any course, the identifiers of the acceptable answers to its
registrations, of which there is at most one (`Course.acceptedIds`).

* `identifier_never_regenerated`: both for runs of operations.
-/

namespace Custodian.Agent

open Appliance

variable {σ : Type} {s : Surroundings σ} {scope : Scope} {a b c : Scene σ Package}

namespace Event

lemma acceptedId?_ne_nil {e : Event} {id : Text} (h : e.acceptedId? = some id) : id ≠ [] := by
  unfold acceptedId? at h
  split at h
  · split at h
    · obtain ⟨v, -, h⟩ := Option.bind_eq_some_iff.1 h
      obtain ⟨v', -, h⟩ := Option.bind_eq_some_iff.1 h
      exact idText?_ne_nil h
    · cases h
  · cases h

lemma acceptedId?_eq_none {e : Event} (h : e.isRegistration = false) : e.acceptedId? = none := by
  rw [Option.eq_none_iff_forall_ne_some]
  intro id hid
  rw [isRegistration_of_acceptedId? hid] at h
  cases h

lemma isRegistration_of_isTransfer {e : Event} (h : e.isTransfer = true) :
    e.isRegistration = false := by
  cases e <;> simp_all [isTransfer, isRegistration]

lemma filterMap_acceptedId?_eq_nil {events : List Event}
    (h : ∀ e ∈ events, e.isRegistration = false) : events.filterMap acceptedId? = [] :=
  List.filterMap_eq_nil_iff.2 fun e he => acceptedId?_eq_none (h e he)

end Event

/-! ### One step -/

lemma Step.identifier_kept (h : Step s scope a b) {id : Text} (present : a.held.identifier? = some id) :
    b.held.identifier? = some id ∧ ∀ e ∈ a.since b, e.isRegistration = false := by
  cases h with
  | requested request not_post own => simpa [present, Event.isRegistration] using not_post
  | refused request absent => simp [present] at absent
  | registered request id absent => simp [present] at absent
  | marked allowed id present' fresh => exact ⟨present, by simp [Event.isRegistration]⟩
  | told mail => simp [present, Event.isRegistration]
  | transferred allowed call event transfer =>
    simp [present, Event.isRegistration_of_isTransfer (transfer _)]

lemma Step.acceptedIds (h : Step s scope a b) (absent : a.held.identifier? = none) :
    (a.since b).filterMap Event.acceptedId? = b.held.identifier?.toList := by
  cases h with
  | requested request not_post own =>
    simpa [absent] using Event.acceptedId?_eq_none (by simpa [Event.isRegistration] using not_post)
  | refused request _ post refused => simp [absent, refused]
  | registered request id _ post accepted =>
    rw [Scene.since_after_keep, List.filterMap_cons_some accepted]
    simp [Event.acceptedId?]
  | marked allowed id present => simp [absent] at present
  | told mail => simp [absent, Event.acceptedId?]
  | transferred allowed call event transfer =>
    simpa [absent] using Event.acceptedId?_eq_none (Event.isRegistration_of_isTransfer (transfer _))

/-! ### Courses -/

/-- A package with an identifier keeps it and is not registered again. -/
theorem Course.identifier_kept (h : Course s scope a b) {id : Text}
    (present : a.held.identifier? = some id) :
    b.held.identifier? = some id ∧ ∀ e ∈ a.since b, e.isRegistration = false := by
  induction h with
  | refl => exact ⟨present, by simp⟩
  | tail course step ih =>
    obtain ⟨hb, quiet⟩ := ih
    obtain ⟨hc, quiet'⟩ := step.identifier_kept hb
    refine ⟨hc, ?_⟩
    intro e he
    rw [Course.since_tail course step] at he
    rcases List.mem_append.1 he with he | he
    · exact quiet e he
    · exact quiet' e he

/-- A package without an identifier comes to have that of the acceptable answer, if there is one. -/
theorem Course.acceptedIds (h : Course s scope a b) (absent : a.held.identifier? = none) :
    (a.since b).filterMap Event.acceptedId? = b.held.identifier?.toList := by
  induction h with
  | refl => simp [absent]
  | @tail b c course step ih =>
    rw [Course.since_tail course step, List.filterMap_append, ih]
    rcases hb : b.held.identifier? with _ | id
    · simpa using step.acceptedIds hb
    · obtain ⟨hc, quiet⟩ := step.identifier_kept hb
      rw [Event.filterMap_acceptedId?_eq_nil quiet, hc, List.append_nil]

lemma Course.length_acceptedIds_le (h : Course s scope a b) :
    ((a.since b).filterMap Event.acceptedId?).length ≤ 1 := by
  rcases present : a.held.identifier? with _ | id
  · rw [h.acceptedIds present]
    cases b.held.identifier? <;> simp
  · rw [Event.filterMap_acceptedId?_eq_nil (h.identifier_kept present).2]
    exact Nat.zero_le 1

/-- An identifier that a package gets in a course is that of the one acceptable answer, and not
empty. -/
lemma Course.acceptedIds_of_identifier (h : Course s scope a b) {id : Text}
    (absent : a.held.identifier? = none) (present : b.held.identifier? = some id) :
    (a.since b).filterMap Event.acceptedId? = [id] ∧ id ≠ [] := by
  have accepted : (a.since b).filterMap Event.acceptedId? = [id] := by
    rw [h.acceptedIds absent, present]
    rfl
  obtain ⟨e, -, he⟩ := List.mem_filterMap.1 (accepted ▸ List.mem_singleton_self id)
  exact ⟨accepted, Event.acceptedId?_ne_nil he⟩

/-! ### Runs -/

/-- **The identifier of a package is never regenerated.** Whatever the surroundings answer, in a run of
operations from any scene on, and in any operations after it:
an identifier that is there stays, and nothing is registered from then on; at most one registration of
the run has an acceptable answer; and an identifier that the run has set is the text, not empty, that
this answer names. -/
theorem identifier_never_regenerated (s : Surroundings σ) (ops later : List Operation)
    (start : Scene σ Package) :
    let reached := (performAll s ops start).2
    let final := (performAll s later reached).2
    (∀ id, reached.held.identifier? = some id →
      final.held.identifier? = some id ∧ ∀ e ∈ reached.since final, e.isRegistration = false) ∧
    ((start.since reached).filterMap Event.acceptedId?).length ≤ 1 ∧
    ∀ id, start.held.identifier? = none → reached.held.identifier? = some id →
      (start.since reached).filterMap Event.acceptedId? = [id] ∧ id ≠ [] := by
  intro reached final
  have run : Course s .all start reached := performAll_course ops
  have rest : Course s .all reached final := performAll_course later
  refine ⟨fun id present => rest.identifier_kept present, run.length_acceptedIds_le, ?_⟩
  intro id absent present
  exact run.acceptedIds_of_identifier absent present

end Custodian.Agent
