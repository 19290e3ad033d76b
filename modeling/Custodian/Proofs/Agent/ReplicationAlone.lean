import Custodian.Proofs.Agent.FailedQuestion

/-!
# The replication state is all that counts

What becomes of a package whose replication is asked for depends on one value in the payloads of the
appliance: the replication state, if it is a text. Whatever else the payloads hold, two appliances that agree on
this lead to the same end.

* `reconcile_of_tells`: a reconciliation asks its questions and then goes on with the report alone.
* `replication_alone`: two appliances that tell the same report, and the answer that goes with it.
-/

namespace Custodian.Agent

open Appliance Relation
open Json (Value)

variable {σ τ : Type} {s : Surroundings σ} {t : Surroundings τ} {scene : Scene σ Package}

/-! ### What the payloads tell -/

/-- The value that the state of a package has for its replication. -/
def replicationValue? (p : Package) (state : Value) : Option Value :=
  match p.shape with
  | .compressed _ =>
    (state.get? FileRelease.fileInformationName).bind fun info => info.get? Replication.fieldName
  | .uncompressed => state.get? Replication.fieldName

/-- The report that a value is. A value that is missing or no text is none. -/
def reportIn? : Option Value → Option Text
  | some (.string report) => some report
  | _ => none

/-- The appliance answers what is asked about the replication of a registered package, and this is the value it
comes to: the one in the state of the package, or where the state of a bag has no report, the one in the answer
about its tag file. -/
inductive Tells (s : Surroundings σ) (p : Package) (id : Text) (world : σ) : Option Value → Prop
  | state {state : Value} (told : IsAnswer (s.exchange (question (statusUrl s p id)) world).1 state)
      (enough : p.isCompressed = true ∨ reportIn? (replicationValue? p state) ≠ none) :
      Tells s p id world (replicationValue? p state)
  | tagFile {state info : Value} (told : IsAnswer (s.exchange (question (statusUrl s p id)) world).1 state)
      (bag : p.isCompressed = false) (silent : reportIn? (replicationValue? p state) = none)
      (toldInfo : IsAnswer (s.exchange (question (s.endpoints.bagInfo p.location p.currentPath))
        (s.exchange (question (statusUrl s p id)) world).2).1 info) :
      Tells s p id world (info.get? Replication.fieldName)

/-- The stores of two surroundings do the same in worlds that are alike, and requests to the appliance leave
them alike. -/
structure StoresAlike (s : Surroundings σ) (t : Surroundings τ) (alike : σ → τ → Prop) : Prop where
  save : ∀ p w w', alike w w' → (t.save p w').1 = (s.save p w).1
  left : ∀ request w w', alike w w' → alike (s.exchange request w).2 w'
  right : ∀ request w w', alike w w' → alike w (t.exchange request w').2

lemma report?_eq (payload : Value) :
    Replication.report? payload = reportIn? (payload.get? Replication.fieldName) := by
  unfold Replication.report?
  rcases payload.get? Replication.fieldName with _ | v
  · rfl
  · cases v <;> rfl

/-! ### Questions that are answered -/

/-- From one scene to the other there are requests only. -/
abbrev Asked (s : Surroundings σ) : Scene σ Package → Scene σ Package → Prop :=
  ReflTransGen fun a b => ∃ request, b = a.after (s.exchange request) (.exchanged request)

lemma asked_after (request : Request) (scene : Scene σ Package) :
    Asked s scene (scene.after (s.exchange request) (.exchanged request)) :=
  .single ⟨request, rfl⟩

namespace Asked

variable {a b : Scene σ Package}

lemma held (h : Asked s a b) : b.held = a.held := by
  induction h with
  | refl => rfl
  | tail _ step ih =>
    obtain ⟨request, rfl⟩ := step
    exact ih

lemma grows (h : Asked s a b) : a.events <+: b.events := by
  induction h with
  | refl => exact List.prefix_rfl
  | tail _ step ih =>
    obtain ⟨request, rfl⟩ := step
    exact ih.trans (List.prefix_append _ _)

lemma attempts (h : Asked s a b) : (a.since b).filterMap Event.attempt? = [] := by
  induction h with
  | refl => rw [Scene.since_self]; rfl
  | @tail b c earlier step ih =>
    obtain ⟨request, rfl⟩ := step
    have hgrows : Asked s a b := earlier
    rw [Scene.since_append_of_grows hgrows.grows (List.prefix_append _ _), List.filterMap_append, ih,
      Scene.since_after]
    rfl

end Asked

/-- Stores stay alike however many questions are asked on either side. -/
lemma StoresAlike.asked {alike : σ → τ → Prop} (h : StoresAlike s t alike) {a b : Scene σ Package}
    {a' b' : Scene τ Package} (left : Asked s a b) (right : Asked t a' b') (start : alike a.world a'.world) :
    alike b.world b'.world := by
  have hleft : alike b.world a'.world := by
    induction left with
    | refl => exact start
    | tail _ step ih =>
      obtain ⟨request, rfl⟩ := step
      exact h.left request _ _ ih
  induction right with
  | refl => exact hleft
  | tail _ step ih =>
    obtain ⟨request, rfl⟩ := step
    exact h.right request _ _ ih

/-- The state of a package is enough if it is compressed, or if there is a report. -/
lemma replicationReport_of_enough {state : Value}
    (enough : scene.held.isCompressed = true ∨ reportIn? (replicationValue? scene.held state) ≠ none) :
    replicationReport s state scene = (.ok ((reportIn? (replicationValue? scene.held state)).getD []), scene) := by
  unfold replicationReport
  rw [Job.held_bind_run]
  unfold Package.isCompressed replicationValue? at enough
  unfold replicationValue?
  rcases shape : scene.held.shape with pointerFile | _ <;> rw [shape] at enough
  · dsimp only
    rcases state.get? FileRelease.fileInformationName with _ | info
    · rfl
    · rw [Option.bind_some, Option.bind_some, report?_eq]
      rfl
  · dsimp only at enough ⊢
    rw [report?_eq]
    rcases hreport : reportIn? (state.get? Replication.fieldName) with _ | report
    · rw [hreport] at enough
      simp at enough
    · rfl

/-- Without a report in the state of a bag, the answer about its tag file is what counts. -/
lemma replicationReport_of_silent {state info : Value} (bag : scene.held.isCompressed = false)
    (silent : reportIn? (replicationValue? scene.held state) = none)
    (told : IsAnswer
      (s.exchange (question (s.endpoints.bagInfo scene.held.location scene.held.currentPath)) scene.world).1
      info) :
    replicationReport s state scene = (.ok ((reportIn? (info.get? Replication.fieldName)).getD []),
      scene.after (s.exchange (question (s.endpoints.bagInfo scene.held.location scene.held.currentPath)))
        (.exchanged (question (s.endpoints.bagInfo scene.held.location scene.held.currentPath)))) := by
  unfold replicationReport
  rw [Job.held_bind_run]
  unfold Package.isCompressed at bag
  unfold replicationValue? at silent
  rcases shape : scene.held.shape with pointerFile | _ <;> rw [shape] at bag silent
  · cases bag
  · dsimp only at silent ⊢
    rw [report?_eq, silent]
    dsimp only
    rw [Job.bind_run, ask_of_isAnswer told]
    dsimp only
    rw [report?_eq]
    rfl

/-! ### Going on with the report -/

/-- **A reconciliation** that is told everything goes on with the report alone, from a scene to which only its
questions have led. -/
theorem reconcile_of_tells {id : Text} {v : Option Value} (registered : scene.held.identifier? = some id)
    (tells : Tells s scene.held id scene.world v) :
    ∃ mid, Asked s scene mid ∧ reconcile s scene = conclude s ((reportIn? v).getD []) mid := by
  set asking := question (statusUrl s scene.held id)
  set mid := scene.after (s.exchange asking) (.exchanged asking)
  have hmid : Asked s scene mid := asked_after asking scene
  rw [reconcile_eq]
  cases tells with
  | @state state told enough =>
    have hreport : replicationReport s state mid = _ := replicationReport_of_enough enough
    refine ⟨mid, hmid, ?_⟩
    rw [Job.bind_run, fetchStatus_of_isAnswer registered told]
    dsimp only
    rw [Job.bind_run, hreport]
    rfl
  | @tagFile state info told bag silent toldInfo =>
    have hreport : replicationReport s state mid = _ := replicationReport_of_silent bag silent toldInfo
    refine ⟨(replicationReport s state mid).2, ?_, ?_⟩
    · rw [hreport]
      exact hmid.trans (asked_after _ mid)
    · rw [Job.bind_run, fetchStatus_of_isAnswer registered told]
      dsimp only
      rw [Job.bind_run, hreport]
      rfl

/-- The answer after an attempt to save the package as uploaded. -/
def answerSaved (p : Package) (report : Text) : Except Text Unit → StatusUpdate
  | .ok () => ⟨some .uploaded, "Replication status: " ++ report⟩
  | .error reason => ⟨none, (Error.store p.uuid reason).message⟩

/-- How a reconciliation goes on from a scene, given the report. -/
def concluded (s : Surroundings σ) (report : Text) (scene : Scene σ Package) :
    StatusUpdate × Scene σ Package :=
  match marked? scene.held report with
  | none => (⟨some scene.held.status, "Replication status: " ++ report⟩, scene)
  | some marked => (answerSaved scene.held report (s.save marked scene.world).1, scene.keep s marked)

lemma updateStatus_of_tells {id : Text} {v : Option Value} (registered : scene.held.identifier? = some id)
    (tells : Tells s scene.held id scene.world v) :
    ∃ mid, Asked s scene mid ∧ updateStatus s scene = concluded s ((reportIn? v).getD []) mid := by
  obtain ⟨mid, asked, hrun⟩ := reconcile_of_tells registered tells
  refine ⟨mid, asked, ?_⟩
  rw [updateStatus, hrun, conclude_run, concluded]
  rcases marked? mid.held ((reportIn? v).getD []) with _ | marked
  · rfl
  · dsimp only
    rcases (s.save marked mid.world).1 with reason | ⟨⟩ <;> rfl

section Concluded

variable {mid : Scene σ Package} (report : Text)

lemma concluded_attempts (asked : Asked s scene mid) :
    (scene.since (concluded s report mid).2).filterMap Event.attempt? =
      ((marked? mid.held report).map fun marked => (marked, (s.save marked mid.world).1)).toList := by
  unfold concluded
  rcases marked? mid.held report with _ | marked
  · exact asked.attempts
  · dsimp only
    rw [Scene.since_append_of_grows asked.grows (List.prefix_append _ _), List.filterMap_append,
      asked.attempts, Scene.since_keep]
    rfl

/-- The answer is the status with the report if everything is saved, and else why it is not. -/
lemma concluded_answer (asked : Asked s scene mid) :
    let attempts := (scene.since (concluded s report mid).2).filterMap Event.attempt?
    ((∀ attempt ∈ attempts, attempt.2 = .ok ()) → (concluded s report mid).1 =
      ⟨some (concluded s report mid).2.held.status, "Replication status: " ++ report⟩) ∧
    ∀ p reason, (p, .error reason) ∈ attempts →
      (concluded s report mid).1 = ⟨none, (Error.store mid.held.uuid reason).message⟩ := by
  intro attempts
  have hattempts : attempts = _ := concluded_attempts report asked
  rw [hattempts]
  unfold concluded
  rcases hm : marked? mid.held report with _ | marked
  · exact ⟨fun _ => rfl, nofun⟩
  · dsimp only [Option.map_some, Option.toList_some]
    rcases (s.save marked mid.world).1 with reason | ⟨⟩
    · simp [answerSaved]
    · simp [answerSaved, status_of_marked? hm]

/-- Two scenes with the same package in which the stores do the same go on alike. -/
lemma concluded_congr {mid' : Scene τ Package} (held : mid'.held = mid.held)
    (saves : ∀ p, (t.save p mid'.world).1 = (s.save p mid.world).1) :
    (concluded t report mid').1 = (concluded s report mid).1 ∧
      (concluded t report mid').2.held = (concluded s report mid).2.held := by
  unfold concluded
  rw [held]
  rcases marked? mid.held report with _ | marked
  · exact ⟨rfl, held⟩
  · dsimp only
    rw [saves]
    exact ⟨rfl, rfl⟩

end Concluded

/-- **The replication state is all that counts.** Let two appliances answer what is asked about the replication
of a registered package, with payloads of any kind that have the same report, or none, where the replication
state is looked for; let the stores do the same. Then the answer, the package in the end and the attempts to
save are the same. If every attempt to save works, the answer is the status of the package and, behind
`Replication status: `, the report as it was given, or nothing; otherwise it is why the package was not saved. -/
theorem replication_alone {alike : σ → τ → Prop} (stores : StoresAlike s t alike)
    (scene : Scene σ Package) (scene' : Scene τ Package) (same : scene'.held = scene.held)
    (start : alike scene.world scene'.world) {id : Text} (registered : scene.held.identifier? = some id)
    {v v' : Option Value} (tells : Tells s scene.held id scene.world v)
    (tells' : Tells t scene.held id scene'.world v') (agree : reportIn? v' = reportIn? v) :
    let run := updateStatus s scene
    let run' := updateStatus t scene'
    let attempts := (scene.since run.2).filterMap Event.attempt?
    run'.1 = run.1 ∧ run'.2.held = run.2.held ∧
      (scene'.since run'.2).filterMap Event.attempt? = attempts ∧
      ((∀ attempt ∈ attempts, attempt.2 = .ok ()) →
        run.1 = ⟨some run.2.held.status, "Replication status: " ++ (reportIn? v).getD []⟩) ∧
      ∀ p reason, (p, .error reason) ∈ attempts →
        run.1 = ⟨none, (Error.store scene.held.uuid reason).message⟩ := by
  intro run run' attempts
  rw [← same] at tells'
  obtain ⟨mid, asked, hrun⟩ := updateStatus_of_tells registered tells
  obtain ⟨mid', asked', hrun'⟩ := updateStatus_of_tells (same ▸ registered) tells'
  rw [agree] at hrun'
  have hheld : mid'.held = mid.held := by rw [asked'.held, same, asked.held]
  have hsaves : ∀ p, (t.save p mid'.world).1 = (s.save p mid.world).1 :=
    fun p => stores.save p _ _ (stores.asked asked asked' start)
  obtain ⟨hupdate, hpackage⟩ := concluded_congr ((reportIn? v).getD []) hheld hsaves
  have hanswer := concluded_answer ((reportIn? v).getD []) asked
  rw [asked.held, ← hrun] at hanswer
  refine ⟨?_, ?_, ?_, hanswer⟩
  · rw [show run = _ from hrun, show run' = _ from hrun', hupdate]
  · rw [show run = _ from hrun, show run' = _ from hrun', hpackage]
  · have hattempts : attempts = _ := congrArg
      (fun run => (scene.since run.2).filterMap Event.attempt?) hrun
    rw [hattempts, show run' = _ from hrun', concluded_attempts _ asked, concluded_attempts _ asked', hheld]
    simp only [hsaves]

/-- **A green package may be answered without its report.** The bag is reported green, but it is not saved: the
answer is no status and the reason why. -/
theorem replication_message_unsaved :
    let start : Scene Nat Package := ⟨1, stagedBag, []⟩
    let run := updateStatus greenAppliance start
    Tells greenAppliance stagedBag "r1" start.world (some (.string "green")) ∧
      run.1 = ⟨none, "Failed to save package 0d4e: no space left"⟩ ∧
      run.1.message ≠ "Replication status: green" := by
  intro start run
  have hvalue : replicationValue? stagedBag (.object [(Replication.fieldName, .string "green")]) =
      some (.string "green") := rfl
  have told : IsAnswer (greenAppliance.exchange (question (statusUrl greenAppliance stagedBag "r1")) 1).1
      (.object [(Replication.fieldName, .string "green")]) := ⟨_, rfl, by decide +kernel⟩
  refine ⟨?_, by decide +kernel, by decide +kernel⟩
  rw [← hvalue]
  exact .state told (.inr nofun)

/-- An appliance that answers the question for the state of a bag with one value and every other question with
another one, whose store works. -/
def tellingAppliance (state info : Value) : Surroundings Nat :=
  { greenAppliance with
    exchange := fun request failures =>
      (.answered 200 (Utf8.encode (if request.url = "http://appliance/api/3/ingest-manifest/status/r1" then
        state else info).compact), failures) }

/-- One appliance gives the state of a bag as an object with more fields of any kind. The other one gives it as
an array, and tells the rest about the tag file. -/
theorem replication_alone_other_payloads :
    let report := Value.string " Green "
    let object := Value.object [("local", .string "?"), (Replication.fieldName, report), ("status", .array [])]
    let info := Value.object [(Replication.fieldName, report)]
    let start : Scene Nat Package := ⟨0, stagedBag, []⟩
    let run := updateStatus (tellingAppliance object .null) start
    let run' := updateStatus (tellingAppliance (.array [report]) info) start
    run'.1 = run.1 ∧ run'.2.held = run.2.held ∧ run.2.held.status = .uploaded ∧
      run.1 = ⟨some run.2.held.status, "Replication status: " ++ " Green "⟩ := by
  intro report object info start run run'
  let appliance := tellingAppliance object .null
  let other := tellingAppliance (.array [report]) info
  have stores : StoresAlike appliance other Eq := by
    refine ⟨?_, ?_, ?_⟩
    · rintro p w _ rfl
      rfl
    · rintro request w _ rfl
      rfl
    · rintro request w _ rfl
      rfl
  have told : IsAnswer (appliance.exchange (question (statusUrl appliance stagedBag "r1")) 0).1 object :=
    ⟨_, rfl, by decide +kernel⟩
  have told' : IsAnswer (other.exchange (question (statusUrl other stagedBag "r1")) 0).1 (.array [report]) :=
    ⟨_, rfl, by decide +kernel⟩
  have toldInfo : IsAnswer (other.exchange (question (other.endpoints.bagInfo stagedBag.location
      stagedBag.currentPath)) (other.exchange (question (statusUrl other stagedBag "r1")) 0).2).1 info :=
    ⟨_, rfl, by decide +kernel⟩
  have hvalue : replicationValue? stagedBag object = some report := rfl
  have tells : Tells appliance stagedBag "r1" 0 (some report) := by
    rw [← hvalue]
    exact .state told (.inr nofun)
  have tells' : Tells other stagedBag "r1" 0 (some report) := .tagFile told' rfl rfl toldInfo
  have alone := replication_alone stores start start rfl rfl rfl tells tells' rfl
  exact ⟨alone.1, alone.2.1, by decide +kernel, alone.2.2.2.1 (by decide +kernel)⟩

end Custodian.Agent
