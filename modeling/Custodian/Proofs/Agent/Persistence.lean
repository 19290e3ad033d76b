import Custodian.Proofs.Agent.Perform

/-!
# The package that is held and its record

A package is changed first and saved then, so that a save which fails leaves the package ahead of its
record. Each change takes the package one step further (`progress`), and there is no way back; so the
record catches up only with a later change that is saved.

* `Course.record_cases`: after a course the record is the package that is held, unless the last save has
  failed; then the record is behind it.
* `status_persisted_iff`: a status that is answered is on record exactly if the last save has worked.
* `status_answered_unsaved`: there are runs in which it has not.
-/

namespace Custodian.Agent

open Appliance

variable {σ : Type} {s : Surroundings σ} {scope : Scope} {a b c : Scene σ Package}

/-! ### Records -/

namespace Event

/-- An attempt to save a package, with its outcome. -/
def attempt? : Event → Option (Package × Except Text Unit)
  | .saved p outcome => some (p, outcome)
  | _ => none

/-- The package that was saved with success. -/
def stored? : Event → Option Package
  | .saved p (.ok ()) => some p
  | _ => none

end Event

/-- The last attempt to save. -/
def lastAttempt? (events : List Event) : Option (Package × Except Text Unit) :=
  (events.filterMap Event.attempt?).getLast?

/-- The record after some events: what was last saved with success, or else the record before them. -/
def recordAfter (record : Package) (events : List Event) : Package :=
  (events.filterMap Event.stored?).getLast?.getD record

/-- Every save has worked, or at least the last one. -/
def LastSaveWorked (events : List Event) : Prop :=
  ∀ attempt, lastAttempt? events = some attempt → attempt.2 = .ok ()

section Events

variable (record p : Package) (events : List Event) {e : Event}

lemma recordAfter_append_other (h : e.attempt? = none) :
    recordAfter record (events ++ [e]) = recordAfter record events := by
  have hstored : e.stored? = none := by
    cases e <;> simp_all [Event.attempt?, Event.stored?]
  simp [recordAfter, hstored]

lemma lastAttempt?_append_other (h : e.attempt? = none) :
    lastAttempt? (events ++ [e]) = lastAttempt? events := by
  simp [lastAttempt?, h]

lemma recordAfter_append_ok : recordAfter record (events ++ [.saved p (.ok ())]) = p := by
  simp [recordAfter, Event.stored?]

lemma recordAfter_append_error (reason : Text) :
    recordAfter record (events ++ [.saved p (.error reason)]) = recordAfter record events := by
  simp [recordAfter, Event.stored?]

lemma lastAttempt?_append_saved (outcome : Except Text Unit) :
    lastAttempt? (events ++ [.saved p outcome]) = some (p, outcome) := by
  simp [lastAttempt?, Event.attempt?]

end Events

/-! ### Progress -/

/-- How far a package has come: whether it has an identifier, and whether it is uploaded. -/
def progress (p : Package) : Nat :=
  (if p.identifier? = none then 0 else 1) + (if p.status = .uploaded then 1 else 0)

lemma progress_congr {p q : Package} (status : p.status = q.status)
    (identifier : p.identifier? = q.identifier?) : progress p = progress q := by
  simp [progress, status, identifier]

lemma progress_setIdentifier {p : Package} (absent : p.identifier? = none) (id : Text) :
    progress p < progress (p.setIdentifier id) := by
  have hstatus : (p.setIdentifier id).status = p.status := rfl
  simp [progress, absent, hstatus]

lemma progress_uploaded {p : Package} (fresh : p.status ≠ .uploaded) :
    progress p < progress { p with status := .uploaded } := by
  have hid : ({ p with status := .uploaded } : Package).identifier? = p.identifier? := rfl
  simp [progress, fresh, hid]

/-! ### Courses -/

/-- The record is the package that is held and the last save has worked, or the last save has failed and
the record is behind. -/
def OnRecord (record held : Package) (events : List Event) : Prop :=
  (LastSaveWorked events ∧ recordAfter record events = held) ∨
    (¬ LastSaveWorked events ∧ progress (recordAfter record events) < progress held)

lemma OnRecord.nil (p : Package) : OnRecord p p [] := by
  refine .inl ⟨?_, rfl⟩
  rintro attempt ⟨⟩

lemma OnRecord.le {record held : Package} {events : List Event} (h : OnRecord record held events) :
    progress (recordAfter record events) ≤ progress held := by
  rcases h with ⟨-, h⟩ | ⟨-, h⟩
  · exact Nat.le_of_eq (congrArg progress h)
  · exact Nat.le_of_lt h

lemma OnRecord.other {record held : Package} {events : List Event} {e : Event}
    (h : OnRecord record held events) (he : e.attempt? = none) :
    OnRecord record held (events ++ [e]) := by
  unfold OnRecord LastSaveWorked at h ⊢
  rwa [recordAfter_append_other _ _ he, lastAttempt?_append_other _ he]

/-- A save of a package that has come further puts it on record, or leaves the record behind it. -/
lemma OnRecord.saved {record held p : Package} {events : List Event} (h : OnRecord record held events)
    (further : progress held < progress p) (outcome : Except Text Unit) :
    OnRecord record p (events ++ [.saved p outcome]) := by
  unfold OnRecord LastSaveWorked
  rw [lastAttempt?_append_saved]
  rcases outcome with reason | ⟨⟩
  · rw [recordAfter_append_error]
    refine .inr ⟨?_, Nat.lt_of_le_of_lt h.le further⟩
    intro worked
    cases worked _ rfl
  · rw [recordAfter_append_ok]
    exact .inl ⟨by simp, rfl⟩

/-- **The record after a course** that begins with the package on record. -/
theorem Course.record_cases (h : Course s scope a b) : OnRecord a.held b.held (a.since b) := by
  induction h with
  | refl => simpa using OnRecord.nil a.held
  | @tail b c course step ih =>
    rw [Course.since_tail course step]
    cases step with
    | registered request id absent =>
      rw [Scene.since_after_keep, ← List.singleton_append, ← List.append_assoc]
      exact (ih.other rfl).saved (progress_setIdentifier absent id) _
    | marked allowed id present fresh =>
      rw [Scene.since_keep]
      exact ih.saved (progress_uploaded fresh) _
    | requested => exact Scene.since_after .. ▸ ih.other rfl
    | refused => exact Scene.since_after .. ▸ ih.other rfl
    | told => exact Scene.since_after .. ▸ ih.other rfl
    | transferred allowed call event transfer =>
      rw [Scene.since_after]
      refine ih.other ?_
      have := transfer (call b.world).1
      revert this
      cases event (call b.world).1 <;> simp [Event.isTransfer, Event.attempt?]

lemma OnRecord.persisted_iff {record held : Package} {events : List Event}
    (h : OnRecord record held events) :
    ((recordAfter record events).status = held.status ∧
      (recordAfter record events).identifier? = held.identifier?) ↔ LastSaveWorked events := by
  rcases h with ⟨worked, h⟩ | ⟨failed, behind⟩
  · simp [h, worked]
  · refine iff_of_false ?_ failed
    rintro ⟨status, identifier⟩
    exact Nat.ne_of_lt behind (progress_congr status identifier)

/-! ### Runs -/

/-- **When a reported status is on record.** Let a run of operations begin with a package that is on
record, and let a question for the status then be answered with a status. The record has this status and
the identifier of the package that is held exactly if the last attempt to save it, if there was one, has
worked. -/
theorem status_persisted_iff (s : Surroundings σ) (ops : List Operation) (start : Scene σ Package)
    (status : Status)
    (answered : (updateStatus s (performAll s ops start).2).1.status = some status) :
    let final := (updateStatus s (performAll s ops start).2).2
    let record := recordAfter start.held (start.since final)
    (record.status = status ∧ record.identifier? = final.held.identifier?) ↔
      LastSaveWorked (start.since final) := by
  intro final record
  have run : Course s .all start final :=
    (performAll_course ops).trans
      (updateStatus_course.mono (fun _ => trivial) fun _ => trivial)
  have hstatus : final.held.status = status := updateStatus_status answered
  rw [← hstatus]
  exact run.record_cases.persisted_iff

section Green

/-- An appliance that reports every bag green, and a store that fails as often as its state says and
works from then on. -/
def greenAppliance : Surroundings Nat where
  appliance := ⟨"appliance", "http", none, none, false⟩
  spaceRoot := "/space"
  files _ := ⟨.empty, []⟩
  exchange _ failures :=
    (.answered 200 (Utf8.encode (Json.Value.object [(Replication.fieldName, .string "green")]).compact),
      failures)
  save _ failures := (if failures = 0 then .ok () else .error "no space left", failures - 1)
  superusers := []
  send _ failures := (.ok (), failures)
  createLocalDirectory _ failures := (.ok (), failures)
  createRemoteDirectory _ _ failures := (.ok (), failures)
  move _ _ _ failures := (.ok (), failures)
  browseLocal _ failures := (.ok .empty, failures)
  browseRemote _ failures := (.ok .empty, failures)

/-- A bag that is registered and on its way. -/
def stagedBag : Package where
  uuid := "0d4e"
  currentPath := "bag"
  location := "aips"
  shape := .uncompressed
  status := .staging
  attributes := [(Package.identifierName, .string "r1")]

/-- With a store that works, a bag that is asked for twice is on record as uploaded. -/
theorem status_persisted_iff_green :
    let start : Scene Nat Package := ⟨0, stagedBag, []⟩
    let reached := (performAll greenAppliance [.updateStatus] start).2
    let final := (updateStatus greenAppliance reached).2
    let record := recordAfter stagedBag (start.since final)
    (updateStatus greenAppliance reached).1.status = some .uploaded ∧ record.status = .uploaded ∧
      record.identifier? = final.held.identifier? := by
  intro start reached final record
  have answered : (updateStatus greenAppliance reached).1.status = some .uploaded := by
    decide +kernel
  have worked : LastSaveWorked (start.since final) := by
    have hlast : (lastAttempt? (start.since final)).map Prod.snd = some (.ok ()) := by decide +kernel
    intro attempt hattempt
    rw [hattempt] at hlast
    exact Option.some.inj hlast
  exact ⟨answered, (status_persisted_iff greenAppliance [.updateStatus] start .uploaded answered).2 worked⟩

/-- **A reported status need not be on record.** A bag that is green is asked for twice, and the store
fails the first time. The first answer is no status. The second one is that the bag is uploaded, without
another attempt to save it: the record still says that it is staged. -/
theorem status_answered_unsaved :
    let reached := (performAll greenAppliance [.updateStatus] ⟨1, stagedBag, []⟩).2
    let final := (updateStatus greenAppliance reached).2
    (updateStatus greenAppliance reached).1.status = some .uploaded ∧
      (recordAfter stagedBag final.events).status = .staging := by
  decide +kernel

end Green

end Custodian.Agent
