import Custodian.Proofs.Agent.Identifier

/-!
# Journals of one package

A journal holds the events about one package, from several runs and perhaps under several
configurations, each with the endpoints that it was meant for. It is faithful to an identifier if at most
one registration in it has an acceptable answer, and from then on it asks only for the state of the
package of that answer, whose identifier is the one that the package has now.

* `Course.faithful`: a course that goes on with the package keeps the journal faithful to it.
-/

namespace Custodian.Agent

open Appliance

/-- The events about one package, with the endpoints that requests were meant for. -/
abbrev Journal := List (Endpoints × Event)

namespace Journal

/-- The identifiers in the acceptable answers to registrations. -/
def acceptedIds (journal : Journal) : List Text :=
  journal.filterMap (·.2.acceptedId?)

/-- Whether an entry asks for the state of the package of an identifier. -/
def Asks (entry : Endpoints × Event) (id : Text) : Prop :=
  ∃ request exchange, entry.2 = .exchanged request exchange ∧ AsksStatus entry.1 request id

/-- After an acceptable answer, only the package of that answer is asked for. -/
def AsksAsAccepted (journal : Journal) : Prop :=
  journal.Pairwise fun earlier later =>
    ∀ id, earlier.2.acceptedId? = some id → ∀ id', Asks later id' → id' = id

/-- The journal agrees with the identifier that the package has. -/
structure Faithful (journal : Journal) (identifier : Option Text) : Prop where
  once : journal.acceptedIds.length ≤ 1
  current : ∀ id ∈ journal.acceptedIds, identifier = some id
  asks : journal.AsksAsAccepted

variable {journal : Journal} {identifier : Option Text} {entry : Endpoints × Event} {id : Text}

lemma not_asks_of_acceptedId? (h : entry.2.acceptedId? = some id) (id' : Text) : ¬Asks entry id' := by
  rintro ⟨request, exchange, hentry, method, -⟩
  have registers := Event.isRegistration_of_acceptedId? h
  rw [hentry, Event.isRegistration, method] at registers
  cases registers

lemma mem_acceptedIds (hmem : entry ∈ journal) (h : entry.2.acceptedId? = some id) :
    id ∈ journal.acceptedIds :=
  List.mem_filterMap.2 ⟨entry, hmem, h⟩

lemma faithful_nil (identifier : Option Text) : Faithful [] identifier :=
  ⟨Nat.zero_le 1, by rintro id ⟨⟩, List.Pairwise.nil⟩

/-- An entry without an acceptable answer, which asks only for the package at hand. -/
lemma Faithful.append_other (h : Faithful journal identifier) (hentry : entry.2.acceptedId? = none)
    (own : ∀ id, Asks entry id → identifier = some id) :
    Faithful (journal ++ [entry]) identifier := by
  have hids : acceptedIds (journal ++ [entry]) = journal.acceptedIds := by
    simp [acceptedIds, hentry]
  refine ⟨hids ▸ h.once, hids ▸ h.current, ?_⟩
  refine List.pairwise_append.2 ⟨h.asks, List.pairwise_singleton _ _, ?_⟩
  intro earlier hearlier later hlater id hid id' hasks
  obtain rfl := List.mem_singleton.1 hlater
  have hcurrent := h.current id (mem_acceptedIds hearlier hid)
  exact Option.some.inj ((own id' hasks).symm.trans hcurrent)

/-- An acceptable answer for a package that had no identifier. -/
lemma Faithful.append_accepted (h : Faithful journal none) (hentry : entry.2.acceptedId? = some id) :
    Faithful (journal ++ [entry]) (some id) := by
  have hnone : journal.acceptedIds = [] :=
    List.eq_nil_iff_forall_not_mem.2 fun id hid => Option.some_ne_none id (h.current id hid).symm
  have hids : acceptedIds (journal ++ [entry]) = [id] := by
    rw [acceptedIds, List.filterMap_append, ← acceptedIds, hnone]
    simp [hentry]
  refine ⟨by simp [hids], ?_, ?_⟩
  · intro id' hid'
    rw [hids, List.mem_singleton] at hid'
    rw [hid']
  · refine List.pairwise_append.2 ⟨h.asks, List.pairwise_singleton _ _, ?_⟩
    intro earlier hearlier later hlater _ _ id' hasks
    obtain rfl := List.mem_singleton.1 hlater
    exact absurd hasks (not_asks_of_acceptedId? hentry id')

lemma Faithful.append_quiet (h : Faithful journal identifier)
    (hentry : ∀ request exchange, entry.2 ≠ .exchanged request exchange) :
    Faithful (journal ++ [entry]) identifier := by
  apply h.append_other
  · unfold Event.acceptedId?
    split
    · next hrequest => exact absurd hrequest (hentry _ _)
    · rfl
  · rintro id ⟨request, exchange, hrequest, -⟩
    exact absurd hrequest (hentry request exchange)

end Journal

/-! ### Courses -/

section Courses

variable {σ : Type} {s : Surroundings σ} {scope : Scope} {a b : Scene σ Package} {journal : Journal}

/-- Events with the endpoints that they were meant for. -/
def entriesFor (e : Endpoints) (events : List Event) : Journal :=
  events.map (e, ·)

lemma Step.faithful (step : Step s scope a b) (h : journal.Faithful a.held.identifier?) :
    (journal ++ entriesFor s.endpoints (a.since b)).Faithful b.held.identifier? := by
  cases step with
  | requested request not_post own =>
    rw [Scene.since_after]
    refine h.append_other ?_ ?_
    · exact Event.acceptedId?_eq_none (by simpa [Event.isRegistration] using not_post)
    · rintro id ⟨request', exchange, hentry, asks⟩
      cases hentry
      exact own id asks
  | refused request absent post refused =>
    rw [Scene.since_after]
    refine h.append_other refused ?_
    rintro id ⟨request', exchange, hentry, method, -⟩
    cases hentry
    rw [post] at method
    cases method
  | registered request id absent post accepted =>
    rw [absent] at h
    rw [Scene.since_after_keep, Scene.keep_held, Package.identifier?_setIdentifier, entriesFor,
      List.map_cons, ← List.singleton_append, ← List.append_assoc]
    exact Journal.Faithful.append_quiet (h.append_accepted accepted) (by simp)
  | marked allowed id present fresh =>
    rw [Scene.since_keep]
    exact h.append_quiet (by simp)
  | told mail =>
    rw [Scene.since_after]
    exact h.append_quiet (by simp)
  | transferred allowed call event transfer =>
    rw [Scene.since_after]
    refine h.append_quiet ?_
    intro request exchange hrequest
    have := transfer (call a.world).1
    dsimp only at hrequest
    rw [hrequest] at this
    cases this

/-- **A course keeps the journal faithful** to the package that is held. -/
theorem Course.faithful (course : Course s scope a b) (h : journal.Faithful a.held.identifier?) :
    (journal ++ entriesFor s.endpoints (a.since b)).Faithful b.held.identifier? := by
  induction course with
  | refl => simpa [entriesFor] using h
  | tail course step ih =>
    rw [Course.since_tail course step, entriesFor, List.map_append, ← List.append_assoc]
    exact step.faithful ih

end Courses

end Custodian.Agent
