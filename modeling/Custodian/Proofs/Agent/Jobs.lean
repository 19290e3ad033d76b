import Custodian.Proofs.Agent.Course

/-!
# The courses of jobs

Registrations and questions are courses in which the package is at most registered. The course of a
job that consists of two is the course of the first one and then, if that has not failed, the course of
the second one (`course_bind`).
-/

namespace Custodian.Agent

open Appliance Relation
open Json (Value)

variable {σ ε α β : Type} {s : Surroundings σ} {scope : Scope} {scene : Scene σ Package}

lemma course_bind {job : Job σ Package ε α} {next : α → Job σ Package ε β}
    (h : Course s scope scene (job scene).2)
    (hnext : ∀ a, (job scene).1 = .ok a → Course s scope (job scene).2 (next a (job scene).2).2) :
    Course s scope scene ((job >>= next) scene).2 := by
  rcases hr : (job scene).1 with e | a
  · rw [Job.bind_run_error hr]
    exact h
  · rw [Job.bind_run_ok hr]
    exact h.trans (hnext a hr)

/-! ### Addresses -/

section Addresses

variable (e : Endpoints) (path id : Text)

lemma fileInfo_ne_status : e.fileInfo path ≠ e.fileReleaseStatus id ∧
    e.fileInfo path ≠ e.manifestStatus id := by
  simp [Endpoints.fileInfo, Endpoints.fileReleaseStatus, Endpoints.manifestStatus, Endpoints.under]

lemma fileReleaseStatus_ne_manifestStatus (id' : Text) :
    e.fileReleaseStatus id ≠ e.manifestStatus id' := by
  simp [Endpoints.fileReleaseStatus, Endpoints.manifestStatus, Endpoints.under]

lemma fileReleaseStatus_inj {id id' : Text} (h : e.fileReleaseStatus id = e.fileReleaseStatus id') :
    id = id' := by
  simpa [Endpoints.fileReleaseStatus, Endpoints.under] using h

lemma manifestStatus_inj {id id' : Text} (h : e.manifestStatus id = e.manifestStatus id') :
    id = id' := by
  simpa [Endpoints.manifestStatus, Endpoints.under] using h

end Addresses

/-- The URL of the state of a package names its identifier and no other. -/
lemma asksStatus_statusUrl {p : Package} {id id' : Text}
    (h : AsksStatus s.endpoints ⟨.get, statusUrl s p id, .nothing⟩ id') : id' = id := by
  obtain ⟨-, h⟩ := h
  simp only [statusUrl] at h
  rcases hs : p.shape with path | _ <;> rw [hs] at h <;> rcases h with h | h
  · exact (fileReleaseStatus_inj _ h).symm
  · exact absurd h (fileReleaseStatus_ne_manifestStatus _ _ _)
  · exact absurd h.symm (fileReleaseStatus_ne_manifestStatus _ _ _)
  · exact (manifestStatus_inj _ h).symm

lemma not_asksStatus_fileInfo (path id : Text) :
    ¬ AsksStatus s.endpoints ⟨.get, s.endpoints.fileInfo path, .nothing⟩ id := by
  rintro ⟨-, h | h⟩
  · exact (fileInfo_ne_status _ _ _).1 h
  · exact (fileInfo_ne_status _ _ _).2 h

/-! ### Registration -/

lemma method_of_registrationRequest {files : FileTree} {p : Package} {destination : Text}
    {request : Request} (h : registrationRequest s files p destination = .ok request) :
    request.method = .post := by
  unfold registrationRequest at h
  split at h
  · next path _ =>
    rcases hf : pointerFixity files path with e | fixity
    · rw [hf] at h; cases h
    · rw [hf] at h; cases h; rfl
  · cases h; rfl

/-- An answer gives an identifier exactly if it is acceptable. -/
lemma registrationAnswer_eq_ok_iff {request : Request} (post : request.method = .post)
    (exchange : Exchange) (id : Text) :
    registrationAnswer request exchange = .ok id ↔
      (Event.exchanged request exchange).acceptedId? = some id := by
  cases exchange with
  | unreachable => simp [registrationAnswer, Event.acceptedId?]
  | closed => simp [registrationAnswer, Event.acceptedId?]
  | truncated status => simp [registrationAnswer, Event.acceptedId?]
  | answered status body =>
    simp only [registrationAnswer, Event.acceptedId?, isAccepted, Bool.or_eq_true,
      decide_eq_true_eq, post, true_and]
    split
    · unfold registeredId
      rcases Value.read? (Utf8.decodeForgiving body) with _ | v
      · simp
      · rcases hv : (v.get? idName).bind idText? with _ | id' <;> simp [hv]
    · simp

/-- What a registration comes to: nothing is sent, or the answer is not acceptable, or the package gets
the identifier of the answer and is saved. -/
lemma register_cases (s : Surroundings σ) (destination : Text) (scene : Scene σ Package) :
    (register s destination scene).2 = scene ∨
    ∃ request : Request, request.method = .post ∧
      (((Event.exchanged request (s.exchange request scene.world).1).acceptedId? = none ∧
        (register s destination scene).2 =
          scene.after (s.exchange request) (.exchanged request)) ∨
      ∃ id, (Event.exchanged request (s.exchange request scene.world).1).acceptedId? = some id ∧
        (register s destination scene).2 =
          (scene.after (s.exchange request) (.exchanged request)).keep s
            (scene.held.setIdentifier id)) := by
  unfold register
  rw [Job.held_bind_run, Job.files_bind_run, Job.ofExcept_bind_run]
  rcases hr : registrationRequest s (s.files scene.world) scene.held destination with e | request
  · exact .inl rfl
  · right
    have post := method_of_registrationRequest hr
    refine ⟨request, post, ?_⟩
    dsimp only
    rw [Job.exchange_bind_run, Job.ofExcept_bind_run]
    rcases ha : registrationAnswer request (s.exchange request scene.world).1 with e | id
    · refine .inl ⟨?_, rfl⟩
      rw [Option.eq_none_iff_forall_ne_some]
      intro id hid
      rw [← registrationAnswer_eq_ok_iff post, ha] at hid
      cases hid
    · refine .inr ⟨id, (registrationAnswer_eq_ok_iff post _ _).1 ha, ?_⟩
      dsimp only
      rw [Job.change_bind_run, Job.bind_run, Job.save_run]
      rcases (s.save _ _).1 <;> rfl

lemma register_course (destination : Text) (absent : scene.held.identifier? = none) :
    Course s scope scene (register s destination scene).2 := by
  rcases register_cases s destination scene with h | ⟨request, post, ⟨refused, h⟩ | ⟨id, accepted, h⟩⟩
  · rw [h]
  · rw [h]
    exact .single (.refused request absent post refused)
  · rw [h]
    exact .single (.registered request id absent post accepted)

lemma ensureRegistered_course : Course s scope scene (ensureRegistered s scene).2 := by
  unfold ensureRegistered
  rw [Job.held_bind_run]
  rcases absent : scene.held.identifier? with _ | id
  · exact register_course _ absent
  · exact .refl

/-! ### Questions -/

lemma ask_course {url : Text} {subject : Subject}
    (own : ∀ id, AsksStatus s.endpoints ⟨.get, url, .nothing⟩ id → scene.held.identifier? = some id) :
    Course s scope scene (ask s url subject scene).2 :=
  .single (.requested ⟨.get, url, .nothing⟩ (by simp) own)

lemma ask_fileInfo_course (path : Text) (subject : Subject) :
    Course s scope scene (ask s (s.endpoints.fileInfo path) subject scene).2 :=
  ask_course fun id h => absurd h (not_asksStatus_fileInfo path id)

lemma fetchStatus_course : Course s scope scene (fetchStatus s scene).2 := by
  unfold fetchStatus
  refine course_bind ensureRegistered_course ?_
  intro _ _
  rw [Job.held_bind_run]
  rcases present : (ensureRegistered s scene).2.held.identifier? with _ | id
  · exact .refl
  · refine ask_course ?_
    intro id' h
    rw [present, asksStatus_statusUrl h]

lemma askFile_course (path : Text) : Course s scope scene (askFile s path scene).2 := by
  unfold askFile
  rw [Job.held_bind_run]
  exact course_bind (ask_fileInfo_course _ _) fun _ _ => .refl

lemma consult_course (path : Option Text) : Course s scope scene (consult s path scene).2 := by
  unfold consult
  rw [Job.held_bind_run]
  rcases scene.held.shape with pointerFile | _
  · apply course_bind fetchStatus_course
    intro v _
    apply course_bind .refl
    intro status _
    rcases status.fileInformation with _ | info <;> exact .refl
  · rcases path with _ | path
    · apply course_bind fetchStatus_course
      intro v _
      apply course_bind .refl
      intro status _
      rcases status.isLocal with _ | found
      · dsimp only
        rw [Job.files_bind_run, Job.held_bind_run]
        apply course_bind .refl
        intro sample _
        exact course_bind (askFile_course _) fun _ _ => .refl
      · exact .refl
    · exact course_bind (askFile_course _) fun _ _ => .refl

lemma notify_course (path id : Option Text) : Course s scope scene (notify s path id scene).2 := by
  unfold notify
  rw [Job.held_bind_run]
  split
  · exact .refl
  · exact .single (.told _)

lemma locality_course (path : Option Text) (tell : Bool) :
    Course s scope scene (locality s path tell scene).2 := by
  unfold locality
  refine course_bind (consult_course path) ?_
  rintro ⟨info, about⟩ -
  dsimp only
  split
  · exact .refl
  · cases tell with
    | true => exact course_bind (notify_course _ _) fun _ _ => .refl
    | false => exact .refl

lemma fixity_course : Course s scope scene (fixity s scene).2 := by
  unfold fixity
  rw [Job.held_bind_run]
  rcases scene.held.shape with pointerFile | _
  · exact .refl
  · apply course_bind fetchStatus_course
    intro v _
    exact course_bind .refl fun m _ => .refl

end Custodian.Agent
