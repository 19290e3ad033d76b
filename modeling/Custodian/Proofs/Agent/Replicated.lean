import Custodian.Proofs.Agent.Jobs

/-!
# Packages that are replicated

A package is marked as uploaded only after the appliance has reported it green. `Reported` says what
the appliance reports in a list of events: the answer to the question for the state of the package, or
the one about its tag file where the state of a bag leaves the replication out.

* `reconcile_cases`: asking for the replication leaves the package as it is, but for a registration, or
  it reaches a scene in which green is reported and marks the package there.
-/

namespace Custodian.Agent

open Appliance Relation
open Json (Value)

variable {σ : Type} {s : Surroundings σ} {scene : Scene σ Package}

/-! ### What the appliance reports -/

/-- A question was answered with the status 200 and a JSON value. -/
def Told (events : List Event) (url : Text) (v : Value) : Prop :=
  ∃ body, Event.exchanged ⟨.get, url, .nothing⟩ (.answered 200 body) ∈ events ∧
    Value.read? (Utf8.decodeForgiving body) = some v

/-- The replication that the appliance reports for a package with an identifier. -/
inductive Reported (s : Surroundings σ) (p : Package) (id : Text) (events : List Event) : Text → Prop
  /-- The state of a compressed package has it in the information about the file. -/
  | release {pointerFile report : Text} {payload info : Value} :
      p.shape = .compressed pointerFile → Told events (statusUrl s p id) payload →
      payload.get? FileRelease.fileInformationName = some info →
      info.get? Replication.fieldName = some (.string report) → Reported s p id events report
  /-- The state of a bag has it. -/
  | manifest {report : Text} {payload : Value} :
      p.shape = .uncompressed → Told events (statusUrl s p id) payload →
      payload.get? Replication.fieldName = some (.string report) → Reported s p id events report
  /-- The state of a bag leaves it out, and its tag file has it. -/
  | tagFile {report : Text} {payload info : Value} :
      p.shape = .uncompressed → Told events (statusUrl s p id) payload →
      (∀ t, payload.get? Replication.fieldName ≠ some (.string t)) →
      Told events (s.endpoints.bagInfo p.location p.currentPath) info →
      info.get? Replication.fieldName = some (.string report) → Reported s p id events report

/-- Whether a report is green: without outer blanks and the case of ASCII letters, it is that word. -/
def IsGreen (report : Text) : Prop :=
  Text.toLower (Text.trimBlanks report) = "green"

/-- The appliance has reported the package green between two scenes. -/
def Greened (s : Surroundings σ) (before after : Scene σ Package) : Prop :=
  ∃ id report, after.held.identifier? = some id ∧
    Reported s after.held id (before.since after) report ∧ IsGreen report

lemma Told.mono {events events' : List Event} {url : Text} {v : Value} (h : Told events url v)
    (sub : events ⊆ events') : Told events' url v := by
  obtain ⟨body, hmem, hread⟩ := h
  exact ⟨body, sub hmem, hread⟩

lemma Reported.mono {p : Package} {id report : Text} {events events' : List Event}
    (h : Reported s p id events report) (sub : events ⊆ events') :
    Reported s p id events' report := by
  cases h with
  | release shape told info report => exact .release shape (told.mono sub) info report
  | manifest shape told report => exact .manifest shape (told.mono sub) report
  | tagFile shape told absent file report =>
    exact .tagFile shape (told.mono sub) absent (file.mono sub) report

/-- A report depends on the shape and the place of the package alone. -/
lemma Reported.congr {p p' : Package} {id report : Text} {events : List Event}
    (h : Reported s p id events report) (shape : p'.shape = p.shape)
    (location : p'.location = p.location) (path : p'.currentPath = p.currentPath) :
    Reported s p' id events report := by
  have hurl : statusUrl s p id = statusUrl s p' id := by simp [statusUrl, shape]
  cases h with
  | release hs told info report => exact .release (shape.trans hs) (hurl ▸ told) info report
  | manifest hs told report => exact .manifest (shape.trans hs) (hurl ▸ told) report
  | tagFile hs told absent file report =>
    exact .tagFile (shape.trans hs) (hurl ▸ told) absent (location ▸ path ▸ file) report

lemma isGreen_of_ofReport {report : Text} (h : Replication.ofReport report = .green) :
    IsGreen report := by
  unfold Replication.ofReport at h
  dsimp only at h
  split at h
  · assumption
  · split at h
    · cases h
    · split at h <;> cases h

lemma not_isGreen_nil : ¬ IsGreen [] := by
  unfold IsGreen
  decide

lemma report?_eq_some_iff {payload : Value} {report : Text} :
    Replication.report? payload = some report ↔
      payload.get? Replication.fieldName = some (.string report) := by
  unfold Replication.report?
  rcases payload.get? Replication.fieldName with _ | v
  · simp
  · cases v <;> simp [Value.text?]

/-! ### Answers -/

lemma answeredValue_eq_ok {request : Request} {subject : Subject} {exchange : Exchange} {v : Value}
    (h : answeredValue request subject exchange = .ok v) :
    ∃ body, exchange = .answered 200 body ∧ Value.read? (Utf8.decodeForgiving body) = some v := by
  cases exchange with
  | unreachable => cases h
  | closed => cases h
  | truncated status => cases h
  | answered status body =>
    simp only [answeredValue] at h
    split at h
    · next h200 =>
      split at h
      · next v' hv =>
        cases h
        exact ⟨body, by rw [h200], hv⟩
      · cases h
    · cases h

lemma ask_told {url : Text} {subject : Subject} {v : Value} (h : (ask s url subject scene).1 = .ok v) :
    Told (scene.since (ask s url subject scene).2) url v := by
  obtain ⟨body, hbody, hread⟩ := answeredValue_eq_ok h
  refine ⟨body, ?_, hread⟩
  have hsince : scene.since (ask s url subject scene).2 =
      [.exchanged ⟨.get, url, .nothing⟩ (s.exchange ⟨.get, url, .nothing⟩ scene.world).1] :=
    Scene.since_after _ _ _
  rw [hsince, hbody]
  exact List.mem_singleton_self _

lemma ask_held {url : Text} {subject : Subject} : (ask s url subject scene).2.held = scene.held :=
  rfl

/-- A state was asked for by the identifier of the package, and told. -/
lemma fetchStatus_told {v : Value} (h : (fetchStatus s scene).1 = .ok v) :
    ∃ id, (fetchStatus s scene).2.held.identifier? = some id ∧
      Told (scene.since (fetchStatus s scene).2) (statusUrl s (fetchStatus s scene).2.held id) v := by
  unfold fetchStatus at h ⊢
  rcases hr : (ensureRegistered s scene).1 with e | u
  · rw [Job.bind_run_error hr] at h
    cases h
  · rw [Job.bind_run_ok hr] at h ⊢
    rw [Job.held_bind_run] at h ⊢
    set mid := (ensureRegistered s scene).2 with hmid
    rcases present : mid.held.identifier? with _ | id
    · rw [present] at h
      cases h
    · rw [present] at h
      refine ⟨id, present, ?_⟩
      have hcourse : Course s .none scene mid := ensureRegistered_course
      have hask : Course s .none mid (ask s (statusUrl s mid.held id) .package mid).2 :=
        ask_course fun id' h => by rw [present, asksStatus_statusUrl h]
      rw [hcourse.since_append hask]
      exact (ask_told h).mono (List.subset_append_right _ _)

/-! ### Reconciliation -/

lemma replicationReport_course {payload : Value} :
    Course s .none scene (replicationReport s payload scene).2 := by
  unfold replicationReport
  rw [Job.held_bind_run]
  rcases scene.held.shape with pointerFile | _
  · exact .refl
  · rcases Replication.report? payload with _ | report
    · exact course_bind (ask_fileInfo_course _ _) fun _ _ => .refl
    · exact .refl

lemma replicationReport_held {payload : Value} :
    (replicationReport s payload scene).2.held = scene.held := by
  unfold replicationReport
  rw [Job.held_bind_run]
  rcases scene.held.shape with pointerFile | _
  · rfl
  · rcases Replication.report? payload with _ | report
    · dsimp only
      rw [Job.bind_run]
      rcases hr : ask s _ _ scene with ⟨_ | v, after⟩ <;>
        exact (congrArg (fun r => r.2.held) hr).symm.trans ask_held
    · rfl

/-- A green report is one that the appliance has given: what stands for a missing report is not green. -/
lemma replicationReport_reported {id report : Text} {payload : Value} {earlier : List Event}
    (told : Told earlier (statusUrl s scene.held id) payload)
    (h : (replicationReport s payload scene).1 = .ok report) (green : IsGreen report) :
    Reported s scene.held id (earlier ++ scene.since (replicationReport s payload scene).2) report := by
  unfold replicationReport at h ⊢
  rw [Job.held_bind_run] at h ⊢
  have told' := fun rest => told.mono (List.subset_append_left earlier rest)
  rcases shape : scene.held.shape with pointerFile | _ <;> rw [shape] at h
  · obtain rfl : ((payload.get? FileRelease.fileInformationName).bind
      Replication.report?).getD [] = report := by simpa using h
    rcases hv : (payload.get? FileRelease.fileInformationName).bind Replication.report? with _ | r
    · rw [hv] at green
      exact absurd green not_isGreen_nil
    · obtain ⟨info, hinfo, hr⟩ := Option.bind_eq_some_iff.1 hv
      exact .release shape (told' _) hinfo (report?_eq_some_iff.1 hr)
  · dsimp only at h ⊢
    rcases hp : Replication.report? payload with _ | r <;> rw [hp] at h
    · dsimp only at h ⊢
      rcases hr : (ask s (s.endpoints.bagInfo scene.held.location scene.held.currentPath) .file
        scene).1 with e | info
      · rw [Job.bind_run_error hr] at h
        cases h
      · rw [Job.bind_run_ok hr] at h ⊢
        obtain rfl : (Replication.report? info).getD [] = report := by simpa using h
        rcases hi : Replication.report? info with _ | r
        · -- the empty text that stands for it is not green
          rw [hi] at green
          exact absurd green not_isGreen_nil
        · refine .tagFile shape (told' _) ?_ ((ask_told hr).mono (List.subset_append_right _ _))
            (report?_eq_some_iff.1 hi)
          intro t ht
          rw [report?_eq_some_iff.2 ht] at hp
          cases hp
    · obtain rfl : r = report := by simpa using h
      exact .manifest shape (told' _) (report?_eq_some_iff.1 hp)

/-- A package that is not marked yet is marked and saved. -/
lemma markUploaded_eq (h : scene.held.status ≠ .uploaded) : markUploaded s scene =
    ((s.save { scene.held with status := .uploaded } scene.world).1.mapError (.store scene.held.uuid),
      scene.keep s { scene.held with status := .uploaded }) := by
  unfold markUploaded
  rw [Job.held_bind_run, if_neg h, Job.change_bind_run, Job.save_run]
  rfl

lemma markUploaded_run (h : scene.held.status ≠ .uploaded) :
    (markUploaded s scene).2 = scene.keep s { scene.held with status := .uploaded } := by
  rw [markUploaded_eq h]

lemma markUploaded_run_uploaded (h : scene.held.status = .uploaded) :
    markUploaded s scene = (.ok (), scene) := by
  unfold markUploaded
  rw [Job.held_bind_run, if_pos h]
  rfl

/-- The last part of a reconciliation: the status that is held is what is answered. -/
def answerStatus (report : Text) : Job σ Package Error StatusUpdate := do
  let p ← Job.held
  return ⟨some p.status, "Replication status: " ++ report⟩

lemma reconcile_eq (s : Surroundings σ) : reconcile s = (do
    let payload ← fetchStatus s
    let report ← replicationReport s payload
    if Replication.ofReport report = .green then markUploaded s >>= fun _ => answerStatus report
    else answerStatus report) := rfl

/-- The last part of a reconciliation, which has nothing but the report to go by. -/
def conclude (s : Surroundings σ) (report : Text) : Job σ Package Error StatusUpdate :=
  if Replication.ofReport report = .green then markUploaded s >>= fun _ => answerStatus report
  else answerStatus report

/-- The package as it is to be saved after a report, if it is to be saved. -/
def marked? (p : Package) (report : Text) : Option Package :=
  if Replication.ofReport report = .green ∧ p.status ≠ .uploaded then some { p with status := .uploaded }
  else none

lemma status_of_marked? {p marked : Package} {report : Text} (h : marked? p report = some marked) :
    marked.status = .uploaded := by
  unfold marked? at h
  split at h <;> cases h
  rfl

/-- What is left to do for a package once the report is known. -/
lemma conclude_run (s : Surroundings σ) (report : Text) (scene : Scene σ Package) :
    conclude s report scene = match marked? scene.held report with
      | none => (.ok ⟨some scene.held.status, "Replication status: " ++ report⟩, scene)
      | some marked => match (s.save marked scene.world).1 with
        | .ok () => (.ok ⟨some .uploaded, "Replication status: " ++ report⟩, scene.keep s marked)
        | .error reason => (.error (.store scene.held.uuid reason), scene.keep s marked) := by
  unfold conclude marked?
  by_cases green : Replication.ofReport report = .green
  · by_cases fresh : scene.held.status = .uploaded
    · rw [if_pos green, if_neg (fun h => h.2 fresh), Job.bind_run, markUploaded_run_uploaded fresh]
      rfl
    · rw [if_pos green, if_pos ⟨green, fresh⟩, Job.bind_run, markUploaded_eq fresh]
      dsimp only
      rcases (s.save { scene.held with status := .uploaded } scene.world).1 with reason | ⟨⟩ <;> rfl
  · rw [if_neg green, if_neg (fun h => green h.1)]
    rfl

/-- Asking for the replication of a package at most registers it, or it reaches a scene in which the
package is reported green and marks it there. -/
theorem reconcile_cases (s : Surroundings σ) (scene : Scene σ Package) :
    Course s .none scene (reconcile s scene).2 ∨
    ∃ mid, Course s .none scene mid ∧ mid.held.status ≠ .uploaded ∧ Greened s scene mid ∧
      (reconcile s scene).2 = mid.keep s { mid.held with status := .uploaded } := by
  rw [reconcile_eq]
  rcases hf : (fetchStatus s scene).1 with e | payload
  · rw [Job.bind_run_error hf]
    exact .inl fetchStatus_course
  rw [Job.bind_run_ok hf]
  obtain ⟨id, present, told⟩ := fetchStatus_told hf
  have hfetch : Course s .none scene (fetchStatus s scene).2 := fetchStatus_course
  set asked := (fetchStatus s scene).2
  have hreport : Course s .none asked (replicationReport s payload asked).2 :=
    replicationReport_course
  rcases hr : (replicationReport s payload asked).1 with e | report
  · rw [Job.bind_run_error hr]
    exact .inl (hfetch.trans hreport)
  rw [Job.bind_run_ok hr]
  have hheld : (replicationReport s payload asked).2.held = asked.held := replicationReport_held
  by_cases green : Replication.ofReport report = .green
  · have reported := replicationReport_reported told hr (isGreen_of_ofReport green)
    rw [← hfetch.since_append hreport] at reported
    rw [if_pos green]
    set mid := (replicationReport s payload asked).2
    by_cases fresh : mid.held.status = .uploaded
    · rw [Job.bind_run, markUploaded_run_uploaded fresh]
      exact .inl (hfetch.trans hreport)
    · right
      refine ⟨mid, hfetch.trans hreport, fresh, ⟨id, report, by rw [hheld, present],
        hheld ▸ reported, isGreen_of_ofReport green⟩, ?_⟩
      rw [← markUploaded_run fresh, Job.bind_run]
      rcases markUploaded s mid with ⟨_ | _, after⟩ <;> rfl
  · rw [if_neg green]
    exact .inl (hfetch.trans hreport)

/-- The status in an answer is the one of the package in the end. -/
lemma reconcile_status {u : StatusUpdate} (h : (reconcile s scene).1 = .ok u) :
    u.status = some (reconcile s scene).2.held.status := by
  rw [reconcile_eq] at h ⊢
  rcases hf : (fetchStatus s scene).1 with e | payload
  · rw [Job.bind_run_error hf] at h
    cases h
  rw [Job.bind_run_ok hf] at h ⊢
  rcases hr : (replicationReport s payload (fetchStatus s scene).2).1 with e | report
  · rw [Job.bind_run_error hr] at h
    cases h
  rw [Job.bind_run_ok hr] at h ⊢
  split at h
  · next green =>
    rw [if_pos green]
    rcases hm : (markUploaded s (replicationReport s payload (fetchStatus s scene).2).2).1 with e | u
    · rw [Job.bind_run_error hm] at h
      cases h
    · rw [Job.bind_run_ok hm] at h ⊢
      cases h
      rfl
  · next green =>
    rw [if_neg green]
    cases h
    rfl

end Custodian.Agent
