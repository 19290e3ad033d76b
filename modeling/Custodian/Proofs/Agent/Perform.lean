import Custodian.Proofs.Agent.Replicated

/-!
# The courses of operations

* `perform_course`: an operation is a course. Only a question for the status marks the package as
  uploaded, and only if the package is reported green in this very operation.
* `performAll_course`: a run of operations is a course.
-/

namespace Custodian.Agent

open Appliance Relation

variable {σ : Type} {s : Surroundings σ} {scope : Scope} {scene : Scene σ Package}

/-! ### Questions -/

lemma updateStatus_run (s : Surroundings σ) (scene : Scene σ Package) :
    (updateStatus s scene).2 = (reconcile s scene).2 := by
  unfold updateStatus
  rcases reconcile s scene with ⟨_ | u, after⟩ <;> rfl

lemma isFileLocal_run (s : Surroundings σ) (path : Option Text) (tell : Bool)
    (scene : Scene σ Package) :
    (isFileLocal s path tell scene).2 = (locality s path tell scene).2 := by
  unfold isFileLocal
  rcases locality s path tell scene with ⟨_ | found, after⟩ <;> rfl

lemma checkFixity_run (s : Surroundings σ) (scene : Scene σ Package) :
    (checkFixity s scene).2 = (fixity s scene).2 := by
  unfold checkFixity
  split
  · next h => rw [h]
  · next h => rw [h]
  · next h => rw [h]

/-- The status that is answered is the one the package then has. -/
lemma updateStatus_status {status : Status} (h : (updateStatus s scene).1.status = some status) :
    (updateStatus s scene).2.held.status = status := by
  rw [updateStatus_run]
  unfold updateStatus at h
  rcases hr : reconcile s scene with ⟨e | u, after⟩ <;> rw [hr] at h
  · cases h
  · have hu : (reconcile s scene).1 = .ok u := by rw [hr]
    have hstatus := reconcile_status hu
    rw [hr] at hstatus
    exact Option.some.inj (hstatus.symm.trans h)

/-- Green is reported between two scenes also if the package is marked right after them. -/
lemma Greened.keep {before mid : Scene σ Package} (h : Greened s before mid)
    (course : Course s .none before mid) :
    Greened s before (mid.keep s { mid.held with status := .uploaded }) := by
  obtain ⟨id, report, present, reported, green⟩ := h
  refine ⟨id, report, present, ?_, green⟩
  have hevents : (mid.keep s { mid.held with status := .uploaded }).events = before.events ++
      (before.since mid ++ [.saved { mid.held with status := .uploaded }
        (s.save { mid.held with status := .uploaded } mid.world).1]) := by
    rw [Scene.keep_events, ← List.append_assoc, ← course.events_eq]
  rw [Scene.since_of_eq hevents]
  exact (reported.mono (List.subset_append_left _ _)).congr rfl rfl rfl

/-- Asking for the status marks the package only if it is reported green. -/
theorem updateStatus_course : Course s ⟨Greened s scene (updateStatus s scene).2, False⟩ scene
    (updateStatus s scene).2 := by
  rw [updateStatus_run]
  rcases reconcile_cases s scene with h | ⟨mid, course, fresh, greened, h⟩
  · exact h.of_none _
  · have greened' := greened.keep course
    obtain ⟨id, -, present, -⟩ := greened
    rw [h]
    exact (course.of_none _).tail (.marked greened' id present fresh)

lemma isFileLocal_course (path : Option Text) (tell : Bool) :
    Course s scope scene (isFileLocal s path tell scene).2 := by
  rw [isFileLocal_run]
  exact locality_course path tell

lemma checkFixity_course : Course s scope scene (checkFixity s scene).2 := by
  rw [checkFixity_run]
  exact fixity_course

/-! ### Announcements and deletions -/

lemma announce_course (destination : Text) :
    Course s scope scene (announce s destination scene).2 := by
  unfold announce
  rw [Job.held_bind_run]
  rcases absent : scene.held.identifier? with _ | id
  · exact course_bind (register_course destination absent) fun _ _ => .refl
  · exact .refl

lemma deletePath_course (path : Text) : Course s scope scene (deletePath s path scene).2 := by
  unfold deletePath
  rw [Job.exchange_bind_run]
  refine .single (.requested _ (by simp) ?_)
  rintro id ⟨method, -⟩
  cases method

/-! ### Transfers -/

section Transfers

variable (allowed : scope.transfers)

include allowed

lemma createLocally_course (path : Text) : Course s scope scene (createLocally s path scene).2 :=
  .single (.transferred allowed _ _ fun _ => rfl)

lemma createRemotely_course (path : Text) (remote : Remote) :
    Course s scope scene (createRemotely s path remote scene).2 :=
  .single (.transferred allowed _ _ fun _ => rfl)

lemma move_course (source target : Text) (tryRename : Bool) :
    Course s scope scene (move s source target tryRename scene).2 :=
  .single (.transferred allowed _ _ fun _ => rfl)

lemma browse_course (path : Text) : Course s scope scene (browse s path scene).2 := by
  unfold browse
  rcases s.remote? with _ | remote <;> exact .single (.transferred allowed _ _ fun _ => rfl)

lemma fetch_course (source target : Text) : Course s scope scene (fetch s source target scene).2 :=
  course_bind (createLocally_course allowed _) fun _ _ => move_course allowed _ _ _

lemma deposit_course (source target : Text) :
    Course s scope scene (deposit s source target scene).2 := by
  unfold deposit
  rcases s.remote? with _ | remote
  · apply course_bind (createLocally_course allowed _)
    intro _ _
    exact move_course allowed _ _ _
  · apply course_bind (createRemotely_course allowed _ _)
    intro _ _
    exact move_course allowed _ _ _

end Transfers

/-! ### Operations and runs -/

/-- An operation is a course, in which only a question for the status marks the package as uploaded,
and only a package that is reported green. -/
theorem perform_course (op : Operation) :
    Course s ⟨op = .updateStatus ∧ Greened s scene (op.perform s scene).2, True⟩ scene
      (op.perform s scene).2 := by
  cases op with
  | announce destination => exact announce_course destination
  | updateStatus => exact updateStatus_course.mono (fun h => ⟨rfl, h⟩) False.elim
  | isFileLocal path tell => exact isFileLocal_course path tell
  | checkFixity => exact checkFixity_course
  | browse path => exact browse_course trivial path
  | deletePath path => exact deletePath_course path
  | fetch source target => exact fetch_course trivial source target
  | deposit source target => exact deposit_course trivial source target

theorem performAll_course (ops : List Operation) :
    Course s .all scene (performAll s ops scene).2 := by
  induction ops generalizing scene with
  | nil => exact .refl
  | cons op ops ih =>
    have first : Course s .all scene (op.perform s scene).2 :=
      (perform_course op).mono (fun _ => trivial) fun _ => trivial
    exact first.trans ih

end Custodian.Agent
