import Custodian.Proofs.Agent.FixityOutcome
import Custodian.Proofs.Agent.LocalityAnswer

/-!
# Questions that fail

A question to the appliance fails if the exchange breaks off, if its status is not 200, or if its body is no
JSON (`Fails`). A job is honest if a question that fails in it is the end of it: the job then comes to the
error of this question, whatever it has found out before.

* `honest_bind`: a job that consists of two honest ones is honest.
* `failed_question_is_no_answer`: an operation in which a question fails tells the error, or that nothing is
  known, and changes nothing beside the registration that came before.
-/

namespace Custodian.Agent

open Appliance
open Json (Value)

variable {σ ε α β : Type} {s : Surroundings σ} {scene : Scene σ Package}

/-! ### Exchanges and answers -/

/-- The request of an exchange, with what came of it. -/
def Event.exchange? : Event → Option (Request × Exchange)
  | .exchanged request exchange => some (request, exchange)
  | _ => none

/-- The exchanges among some events, in order. -/
def exchanges (events : List Event) : List (Request × Exchange) :=
  events.filterMap Event.exchange?

/-- A value is what a question is answered with: the answer is complete, its status is 200, and its body is
JSON. -/
def IsAnswer (exchange : Exchange) (v : Value) : Prop :=
  ∃ body, exchange = .answered 200 body ∧ Value.read? (Utf8.decodeForgiving body) = some v

/-- How a question fails, and with which error. The error about a body that is no JSON names what was asked
for: the state of a package, or a file. -/
inductive Fails (e : Endpoints) (request : Request) : Exchange → Error → Prop
  | notSent : Fails e request .unreachable (.transport request.method request.url)
  | notAnswered : Fails e request .closed (.transport request.method request.url)
  | brokenOff {status : Nat} : Fails e request (.truncated status) (.transport request.method request.url)
  | refused {status : Nat} {body : Bytes} (failure : status ≠ 200) :
      Fails e request (.answered status body) (.protocol request.url status (Utf8.decodeForgiving body))
  | garbledState {id : Text} {body : Bytes} (asked : AsksStatus e request id)
      (garbled : Value.read? (Utf8.decodeForgiving body) = none) :
      Fails e request (.answered 200 body) (.format .package)
  | garbledFile {body : Bytes} (asked : ∀ id, ¬AsksStatus e request id)
      (garbled : Value.read? (Utf8.decodeForgiving body) = none) :
      Fails e request (.answered 200 body) (.format .file)

@[simp]
lemma exchanges_nil : exchanges [] = [] := rfl

@[simp]
lemma exchanges_append (events later : List Event) :
    exchanges (events ++ later) = exchanges events ++ exchanges later :=
  List.filterMap_append

lemma mem_requests_of_mem_exchanges {events : List Event} {request : Request} {exchange : Exchange}
    (h : (request, exchange) ∈ exchanges events) : request ∈ requests events := by
  obtain ⟨event, hmem, hexchange⟩ := List.mem_filterMap.1 h
  cases event with
  | exchanged request' exchange' =>
    cases hexchange
    exact List.mem_filterMap.2 ⟨_, hmem, rfl⟩
  | _ => cases hexchange

lemma method_of_mem_registering {p : Package} (files : FileTree) (destination : Text) :
    ∀ request ∈ registering s p files destination, request.method ≠ .get := by
  rcases hid : p.identifier? with _ | id
  · rw [registering_eq hid]
    intro request asked
    rcases hr : registrationRequest s files p destination with e | request' <;> rw [hr] at asked
    · cases asked
    · obtain rfl : request = request' := by simpa [Except.toOption] using asked
      rw [method_of_registrationRequest hr]
      decide
  · rw [registering_of_identifier hid]
    intro request asked
    cases asked

namespace Fails

variable {e : Endpoints} {request : Request} {exchange : Exchange} {error : Error}

lemma ne_store (h : Fails e request exchange error) (uuid reason : Text) : error ≠ .store uuid reason := by
  cases h <;> nofun

end Fails

/-! ### Honest runs -/

/-- A question that fails in the course of a run is the end of the run, which comes to its error. -/
structure Honest (s : Surroundings σ) (scene : Scene σ Package) (run : Except Error α × Scene σ Package) :
    Prop where
  grows : scene.events <+: run.2.events
  fails : ∀ request exchange, (request, exchange) ∈ exchanges (scene.since run.2) →
    request.method = .get → (∀ v, ¬IsAnswer exchange v) →
      ∃ e, Fails s.endpoints request exchange e ∧ run.1 = .error e

lemma honest_still (result : Except Error α) : Honest s scene (result, scene) := by
  refine ⟨List.prefix_rfl, ?_⟩
  intro request exchange asked
  rw [Scene.since_self] at asked
  cases asked

lemma honest_of_no_question {run : Except Error α × Scene σ Package}
    (grows : scene.events <+: run.2.events)
    (none : ∀ request ∈ requests (scene.since run.2), request.method ≠ .get) : Honest s scene run := by
  refine ⟨grows, ?_⟩
  intro request exchange asked question
  exact absurd question (none request (mem_requests_of_mem_exchanges asked))

/-- A job that consists of two is honest if both are: after a question that fails in the first one, the
second one does not run. -/
lemma honest_bind {job : Job σ Package Error α} {next : α → Job σ Package Error β}
    (h : Honest s scene (job scene))
    (hnext : ∀ a, (job scene).1 = .ok a → Honest s (job scene).2 (next a (job scene).2)) :
    Honest s scene ((job >>= next) scene) := by
  rcases hr : (job scene).1 with e | a
  · rw [Job.bind_run_error hr]
    refine ⟨h.grows, ?_⟩
    intro request exchange asked question unanswered
    obtain ⟨e', failed, he⟩ := h.fails request exchange asked question unanswered
    obtain rfl : e = e' := Except.error.inj (hr.symm.trans he)
    exact ⟨e, failed, rfl⟩
  · have rest := hnext a hr
    rw [Job.bind_run_ok hr]
    refine ⟨h.grows.trans rest.grows, ?_⟩
    intro request exchange asked question unanswered
    rw [Scene.since_append_of_grows h.grows rest.grows, exchanges_append] at asked
    rcases List.mem_append.1 asked with early | late
    · obtain ⟨e, -, he⟩ := h.fails request exchange early question unanswered
      rw [hr] at he
      cases he
    · exact rest.fails request exchange late question unanswered

lemma honest_ofExcept {r : Except Error α} {next : α → Job σ Package Error β}
    (hnext : ∀ a, r = .ok a → Honest s scene (next a scene)) :
    Honest s scene ((Job.ofExcept r >>= next) scene) :=
  honest_bind (honest_still r) hnext

/-! ### Questions -/

/-- A question that has no answer fails. -/
lemma fails_of_answeredValue {e : Endpoints} {request : Request} {subject : Subject} {exchange : Exchange}
    (state : subject = .package → ∃ id, AsksStatus e request id)
    (file : subject ≠ .package → subject = .file ∧ ∀ id, ¬AsksStatus e request id)
    (unanswered : ∀ v, ¬IsAnswer exchange v) :
    ∃ error, Fails e request exchange error ∧ answeredValue request subject exchange = .error error := by
  rcases exchange with _ | _ | status | ⟨status, body⟩
  · exact ⟨_, .notSent, rfl⟩
  · exact ⟨_, .notAnswered, rfl⟩
  · exact ⟨_, .brokenOff, rfl⟩
  by_cases success : status = 200
  · subst success
    have garbled : Value.read? (Utf8.decodeForgiving body) = none := by
      rw [Option.eq_none_iff_forall_ne_some]
      intro v hv
      exact unanswered v ⟨body, rfl, hv⟩
    refine ⟨.format subject, ?_, by simp [answeredValue, garbled]⟩
    by_cases package : subject = .package
    · obtain ⟨id, asked⟩ := state package
      exact package ▸ .garbledState asked garbled
    · obtain ⟨rfl, asked⟩ := file package
      exact .garbledFile asked garbled
  · exact ⟨_, .refused success, by simp [answeredValue, success]⟩

lemma honest_ask {url : Text} {subject : Subject}
    (state : subject = .package → ∃ id, AsksStatus s.endpoints (question url) id)
    (file : subject ≠ .package → subject = .file ∧ ∀ id, ¬AsksStatus s.endpoints (question url) id) :
    Honest s scene (ask s url subject scene) := by
  refine ⟨ask_grows s url subject scene, ?_⟩
  intro request exchange asked _ unanswered
  have hsince : scene.since (ask s url subject scene).2 =
      [.exchanged (question url) (s.exchange (question url) scene.world).1] :=
    Scene.since_after _ _ _
  rw [hsince] at asked
  cases List.mem_singleton.1 asked
  exact fails_of_answeredValue state file unanswered

lemma honest_askFileInfo (path : Text) : Honest s scene (ask s (s.endpoints.fileInfo path) .file scene) :=
  honest_ask nofun fun _ => ⟨rfl, not_asksStatus_fileInfo path⟩

lemma asksStatus_self (p : Package) (id : Text) :
    AsksStatus s.endpoints (question (statusUrl s p id)) id := by
  refine ⟨rfl, ?_⟩
  unfold question statusUrl
  rcases p.shape with pointerFile | _
  · exact .inl rfl
  · exact .inr rfl

lemma honest_askState (p : Package) (id : Text) :
    Honest s scene (ask s (statusUrl s p id) .package scene) :=
  honest_ask (fun _ => ⟨id, asksStatus_self p id⟩) fun h => absurd rfl h

/-- A registration asks no question. -/
lemma honest_ensureRegistered : Honest s scene (ensureRegistered s scene) := by
  have hcourse : Course s .none scene (ensureRegistered s scene).2 := ensureRegistered_course
  refine honest_of_no_question hcourse.grows ?_
  rw [ensureRegistered_requests]
  exact method_of_mem_registering _ _

lemma honest_fetchStatus : Honest s scene (fetchStatus s scene) := by
  refine honest_bind honest_ensureRegistered ?_
  intro _ _
  generalize (ensureRegistered s scene).2 = mid
  rw [Job.held_bind_run]
  rcases mid.held.identifier? with _ | id
  · exact honest_still _
  · exact honest_askState _ _

lemma honest_askFile (path : Text) : Honest s scene (askFile s path scene) := by
  unfold askFile
  rw [Job.held_bind_run]
  exact honest_bind (honest_askFileInfo _) fun _ _ => honest_still _

/-! ### Questions that are answered -/

lemma ask_of_isAnswer {url : Text} {subject : Subject} {v : Value}
    (h : IsAnswer (s.exchange (question url) scene.world).1 v) :
    ask s url subject scene =
      (.ok v, scene.after (s.exchange (question url)) (.exchanged (question url))) := by
  obtain ⟨body, hbody, hread⟩ := h
  have hvalue : answeredValue (question url) subject (s.exchange (question url) scene.world).1 = .ok v := by
    simp [hbody, answeredValue, hread]
  exact congrArg (·, scene.after (s.exchange (question url)) (.exchanged (question url))) hvalue

lemma fetchStatus_of_isAnswer {id : Text} {v : Value} (registered : scene.held.identifier? = some id)
    (h : IsAnswer (s.exchange (question (statusUrl s scene.held id)) scene.world).1 v) :
    fetchStatus s scene = (.ok v, scene.after (s.exchange (question (statusUrl s scene.held id)))
      (.exchanged (question (statusUrl s scene.held id)))) := by
  rw [fetchStatus_eq, ensureRegistered_of_identifier registered, registered]
  exact ask_of_isAnswer h

/-! ### Answers -/

lemma honest_replicationReport (payload : Value) : Honest s scene (replicationReport s payload scene) := by
  unfold replicationReport
  rw [Job.held_bind_run]
  rcases scene.held.shape with pointerFile | _
  · exact honest_still _
  · rcases Replication.report? payload with _ | report
    · exact honest_bind (honest_askFileInfo _) fun _ _ => honest_still _
    · exact honest_still _

lemma honest_reconcile : Honest s scene (reconcile s scene) := by
  rw [reconcile_eq]
  refine honest_bind honest_fetchStatus ?_
  intro payload _
  refine honest_bind (honest_replicationReport payload) ?_
  intro report _
  have hrest := conclude_requests s report (replicationReport s payload (fetchStatus s scene).2).2
  refine honest_of_no_question hrest.1 ?_
  rw [hrest.2]
  nofun

lemma honest_consult (path : Option Text) : Honest s scene (consult s path scene) := by
  unfold consult
  rw [Job.held_bind_run]
  rcases scene.held.shape with pointerFile | _
  · refine honest_bind honest_fetchStatus ?_
    intro v _
    refine honest_ofExcept ?_
    intro status _
    rcases status.fileInformation with _ | info
    · exact honest_still _
    · exact honest_still _
  rcases path with _ | path
  · refine honest_bind honest_fetchStatus ?_
    intro v _
    refine honest_ofExcept ?_
    intro status _
    rcases status.isLocal with _ | found
    · dsimp only
      rw [Job.files_bind_run, Job.held_bind_run]
      refine honest_ofExcept ?_
      intro sample _
      exact honest_bind (honest_askFile sample) fun _ _ => honest_still _
    · exact honest_still _
  · exact honest_bind (honest_askFile path) fun _ _ => honest_still _

lemma honest_fixity : Honest s scene (fixity s scene) := by
  unfold fixity
  rw [Job.held_bind_run]
  rcases scene.held.shape with pointerFile | _
  · exact honest_still _
  · refine honest_bind honest_fetchStatus ?_
    intro v _
    exact honest_ofExcept fun m _ => honest_still _

lemma honest_locality (path : Option Text) (tell : Bool) :
    Honest s scene (locality s path tell scene) := by
  refine honest_bind (honest_consult path) ?_
  rintro ⟨info, about⟩ -
  dsimp only
  split
  · exact honest_still _
  cases tell with
  | false => exact honest_still _
  | true =>
    refine honest_bind ?_ fun _ _ => honest_still _
    have hnotify : Course s .none (consult s path scene).2 (notify s about _ (consult s path scene).2).2 :=
      notify_course about (info.id.bind idText?)
    refine honest_of_no_question hnotify.grows ?_
    rw [notify_requests]
    nofun

/-! ### What has happened by then -/

/-- Between two scenes the package is at most registered: it stays as it is and nothing is saved, or it gets
the identifier that an acceptable answer to a registration names, and is saved with it. -/
inductive AtMostRegistered (before after : Scene σ Package) : Prop
  | unchanged (held : after.held = before.held)
      (saved : (before.since after).filterMap Event.saved? = [])
  | registered (id : Text) (absent : before.held.identifier? = none)
      (accepted : (before.since after).filterMap Event.acceptedId? = [id])
      (held : after.held = before.held.setIdentifier id)
      (saved : (before.since after).filterMap Event.saved? = [after.held])

lemma AtMostRegistered.status {before after : Scene σ Package} (h : AtMostRegistered before after) :
    after.held.status = before.held.status := by
  cases h with
  | unchanged held => rw [held]
  | registered id absent accepted held => rw [held]; rfl

/-- In a course that neither marks nor moves anything, a package at most gets an identifier. -/
lemma Course.held_cases {a b : Scene σ Package} (h : Course s .none a b) :
    b.held = a.held ∨ ∃ id, a.held.identifier? = none ∧ b.held = a.held.setIdentifier id := by
  induction h with
  | refl => exact .inl rfl
  | @tail b c course step ih =>
    cases step with
    | registered request id absent =>
      have hheld := Course.held_of_absent course absent
      exact .inr ⟨id, hheld ▸ absent, by rw [Scene.keep_held, hheld]⟩
    | marked allowed => exact allowed.elim
    | transferred allowed => exact allowed.elim
    | requested => exact ih
    | refused => exact ih
    | told => exact ih

lemma Course.atMostRegistered {a b : Scene σ Package} (h : Course s .none a b) : AtMostRegistered a b := by
  have hsaved := h.saved_eq_changes
  rcases h.held_cases with held | ⟨id, absent, held⟩
  · rw [held, changes_self] at hsaved
    exact .unchanged held hsaved
  · have present : b.held.identifier? = some id := by rw [held, Package.identifier?_setIdentifier]
    rw [held, changes_setIdentifier absent] at hsaved
    exact .registered id absent (h.acceptedIds_of_identifier absent present).1 held (held ▸ hsaved)

lemma replicationReport_mails (payload : Value) :
    mails (scene.since (replicationReport s payload scene).2) = [] := by
  unfold replicationReport
  rw [Job.held_bind_run]
  rcases scene.held.shape with pointerFile | _
  · simp
  · rcases Replication.report? payload with _ | report
    · dsimp only
      rw [bind_still fun _ _ => rfl, ask_mails]
    · simp

/-- A reconciliation that ends in the error of a question has not come to mark the package. -/
lemma reconcile_of_error {e : Error} (h : (reconcile s scene).1 = .error e)
    (store : ∀ uuid reason, e ≠ .store uuid reason) :
    Course s .none scene (reconcile s scene).2 ∧ mails (scene.since (reconcile s scene).2) = [] := by
  have hfetch : Course s .none scene (fetchStatus s scene).2 := fetchStatus_course
  rw [reconcile_eq] at h ⊢
  rcases hf : (fetchStatus s scene).1 with e' | payload
  · rw [Job.bind_run_error hf]
    exact ⟨hfetch, fetchStatus_mails⟩
  rw [Job.bind_run_ok hf] at h ⊢
  set asked := (fetchStatus s scene).2
  have hreport : Course s .none asked (replicationReport s payload asked).2 := replicationReport_course
  rcases hr : (replicationReport s payload asked).1 with e' | report
  · rw [Job.bind_run_error hr]
    refine ⟨hfetch.trans hreport, ?_⟩
    rw [hfetch.since_append hreport, mails_append, fetchStatus_mails, replicationReport_mails,
      List.append_nil]
  rw [Job.bind_run_ok hr] at h
  generalize (replicationReport s payload asked).2 = mid at h
  -- what is left can only fail to save
  change (conclude s report mid).1 = .error e at h
  rw [conclude_run] at h
  rcases hm : marked? mid.held report with _ | marked <;> rw [hm] at h
  · cases h
  · dsimp only at h
    rcases hs : (s.save marked mid.world).1 with reason | ⟨⟩ <;> rw [hs] at h
    · cases h
      exact absurd rfl (store _ _)
    · cases h

/-! ### Operations -/

/-- What an operation answers that ends in an error of the appliance. -/
def Operation.failing (e : Error) : Operation → Option Answer
  | .updateStatus => some (.status ⟨none, e.message⟩)
  | .checkFixity => some (.fixity (.ok ⟨some false, [], e.message, none⟩))
  | .isFileLocal .. => some (.local? none)
  | .announce _ | .browse _ | .deletePath _ | .fetch .. | .deposit .. => none

lemma updateStatus_of_error {e : Error} (h : (reconcile s scene).1 = .error e) :
    updateStatus s scene = (⟨none, e.message⟩, (reconcile s scene).2) := by
  unfold updateStatus
  rcases hr : reconcile s scene with ⟨e' | u, after⟩ <;> rw [hr] at h <;> cases h
  rfl

/-- Whether a package is at hand is not known only if nothing could be consulted; then nobody is told. -/
lemma isFileLocal_of_locality {path : Option Text} {tell : Bool} {e : Error}
    (h : (locality s path tell scene).1 = .error e) :
    isFileLocal s path tell scene = (none, (consult s path scene).2) := by
  rcases hr : (consult s path scene).1 with e' | ⟨info, about⟩
  · exact isFileLocal_of_error hr
  · have hok : isFileLocal s path tell scene = _ := isFileLocal_of_ok hr
    have hfound := congrArg Prod.fst hok
    unfold isFileLocal at hfound
    rcases hl : locality s path tell scene with ⟨e' | found, after⟩ <;> rw [hl] at h hfound
    · cases hfound
    · cases h

lemma checkFixity_of_error {e : Error} (bag : scene.held.isCompressed = false)
    (h : (fixity s scene).1 = .error e) :
    checkFixity s scene = (.ok (.failed e.message), (fixity s scene).2) := by
  rw [checkFixity_eq bag, h]
  rfl

/-- What a question that fails leaves of an operation. -/
structure Spoilt (s : Surroundings σ) (op : Operation) (scene : Scene σ Package) (request : Request)
    (exchange : Exchange) : Prop where
  answer : ∃ e, Fails s.endpoints request exchange e ∧ op.failing e = some (op.perform s scene).1
  mails : mails (scene.since (op.perform s scene).2) = []
  course : Course s .none scene (op.perform s scene).2

section Spoilt

variable {request : Request} {exchange : Exchange} (question : request.method = .get)
  (unanswered : ∀ v, ¬IsAnswer exchange v)

include question unanswered

lemma updateStatus_spoilt
    (asked : (request, exchange) ∈ exchanges (scene.since (updateStatus s scene).2)) :
    Spoilt s .updateStatus scene request exchange := by
  rw [updateStatus_run] at asked
  obtain ⟨e, failed, he⟩ := honest_reconcile.fails _ _ asked question unanswered
  obtain ⟨course, silent⟩ := reconcile_of_error he failed.ne_store
  have hrun : Operation.updateStatus.perform s scene = (.status ⟨none, e.message⟩, (reconcile s scene).2) := by
    rw [Operation.perform, updateStatus_of_error he]
  exact ⟨⟨e, failed, by rw [hrun]; rfl⟩, by rw [hrun]; exact silent, by rw [hrun]; exact course⟩

lemma isFileLocal_spoilt {path : Option Text} {tell : Bool}
    (asked : (request, exchange) ∈ exchanges (scene.since (isFileLocal s path tell scene).2)) :
    Spoilt s (.isFileLocal path tell) scene request exchange := by
  rw [isFileLocal_run] at asked
  obtain ⟨e, failed, he⟩ := (honest_locality path tell).fails _ _ asked question unanswered
  have hrun : (Operation.isFileLocal path tell).perform s scene =
      (.local? none, (consult s path scene).2) := by
    rw [Operation.perform, isFileLocal_of_locality he]
  exact ⟨⟨e, failed, by rw [hrun]; rfl⟩, by rw [hrun]; exact consult_mails s path scene,
    by rw [hrun]; exact consult_course path⟩

lemma checkFixity_spoilt
    (asked : (request, exchange) ∈ exchanges (scene.since (checkFixity s scene).2)) :
    Spoilt s .checkFixity scene request exchange := by
  rcases compressed : scene.held.isCompressed
  · rw [checkFixity_run] at asked
    obtain ⟨e, failed, he⟩ := honest_fixity.fails _ _ asked question unanswered
    have hrun : Operation.checkFixity.perform s scene =
        (.fixity (.ok (.failed e.message)), (fetchStatus s scene).2) := by
      rw [Operation.perform, checkFixity_of_error compressed he, fixity_run compressed]
    exact ⟨⟨e, failed, by rw [hrun]; rfl⟩, by rw [hrun]; exact fetchStatus_mails,
      by rw [hrun]; exact fetchStatus_course⟩
  · rw [checkFixity_compressed compressed, Scene.since_self] at asked
    cases asked

end Spoilt

/-- The other operations ask no question. -/
lemma method_of_perform (s : Surroundings σ) (op : Operation) (scene : Scene σ Package)
    (other : ∀ e, op.failing e = none) :
    ∀ request ∈ requests (scene.since (op.perform s scene).2), request.method ≠ .get := by
  have quiet : requests (scene.since (op.perform s scene).2) = [] →
      ∀ request ∈ requests (scene.since (op.perform s scene).2), request.method ≠ .get := by
    intro h
    rw [h]
    nofun
  cases op with
  | updateStatus => cases other .notRegistered
  | isFileLocal path tell => cases other .notRegistered
  | checkFixity => cases other .notRegistered
  | announce destination =>
    have hrun : ((Operation.announce destination).perform s scene).2 = (announce s destination scene).2 := rfl
    rw [hrun, announce_requests]
    exact method_of_mem_registering _ _
  | deletePath path =>
    have hrun : ((Operation.deletePath path).perform s scene).2 = (deletePath s path scene).2 := rfl
    rw [hrun, deletePath_requests]
    simp
  | browse path => exact quiet ((isTransfer_browse s path).quiet scene)
  | fetch source target => exact quiet ((isTransfer_fetch s source target).quiet scene)
  | deposit source target => exact quiet ((isTransfer_deposit s source target).quiet scene)

/-- **A question that fails is no answer.** Let a question of an operation have no answer: the exchange breaks
off, its status is not 200, or its body is no JSON. Then the operation has ended with this question. It answers
with the text of the error, or with nothing: no status of the package, a fixity check that has failed without
any findings, or no word on whether the package is at hand. No mail is sent. The package keeps its status; it
is as it was and nothing was saved, but for a registration in the same operation. -/
theorem failed_question_is_no_answer (s : Surroundings σ) (op : Operation) (scene : Scene σ Package)
    {request : Request} {exchange : Exchange}
    (asked : (request, exchange) ∈ exchanges (scene.since (op.perform s scene).2))
    (question : request.method = .get) (unanswered : ∀ v, ¬IsAnswer exchange v) :
    let run := op.perform s scene
    (∃ e, Fails s.endpoints request exchange e ∧ op.failing e = some run.1) ∧
      mails (scene.since run.2) = [] ∧ run.2.held.status = scene.held.status ∧
      AtMostRegistered scene run.2 := by
  have spoilt : Spoilt s op scene request exchange := by
    cases op with
    | updateStatus => exact updateStatus_spoilt question unanswered asked
    | isFileLocal path tell => exact isFileLocal_spoilt question unanswered asked
    | checkFixity => exact checkFixity_spoilt question unanswered asked
    | announce | browse | deletePath | fetch | deposit =>
      have none := method_of_perform s _ scene (fun _ => rfl) request (mem_requests_of_mem_exchanges asked)
      exact absurd question none
  have changed := spoilt.course.atMostRegistered
  exact ⟨spoilt.answer, spoilt.mails, changed.status, changed⟩

/-- An appliance that registers every bag, tells nothing about its state, and breaks off over its files. -/
def brokenAppliance : Surroundings Nat :=
  { greenAppliance with
    exchange := fun request failures =>
      (if request.method = .post then
          .answered 202 (Utf8.encode (Value.object [(idName, .string "r1")]).compact)
        else if request.url = "http://appliance/api/3/ingest-manifest/status/r1" then
          .answered 200 (Utf8.encode (Value.object []).compact)
        else .truncated 200, failures) }

/-- A bag is registered and its state is told, but not its replication; the answer about its tag file breaks
off. -/
theorem failed_question_is_no_answer_tagFile :
    let start := unregistered 0
    let asked := question "http://appliance/api/2/files/fileInfo/aips/bag/bag-info.txt"
    let run := Operation.updateStatus.perform brokenAppliance start
    (asked, .truncated 200) ∈ exchanges (start.since run.2) ∧ (∀ v, ¬IsAnswer (.truncated 200) v) ∧
      (∃ e, Fails brokenAppliance.endpoints asked (.truncated 200) e ∧
        Operation.updateStatus.failing e = some run.1) ∧
      run.2.held.identifier? = some "r1" ∧ AtMostRegistered start run.2 := by
  intro start asked run
  have hasked : (asked, .truncated 200) ∈ exchanges (start.since run.2) := by decide +kernel
  have unanswered : ∀ v, ¬IsAnswer (.truncated 200) v := by
    rintro v ⟨body, ⟨⟩, -⟩
  have spoilt := failed_question_is_no_answer brokenAppliance .updateStatus start hasked rfl unanswered
  exact ⟨hasked, unanswered, spoilt.1, by decide +kernel, spoilt.2.2.2⟩

end Custodian.Agent
