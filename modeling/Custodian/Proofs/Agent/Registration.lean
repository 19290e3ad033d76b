import Custodian.Proofs.Agent.Lifecycle
import Custodian.Proofs.Agent.Persistence

/-!
# What a registration needs

A registration needs a description of the package, an acceptable answer and a save that works, one after the
other. The first of these that is missing ends it (`register_ends`). Until the answer is accepted, the
package stays as it is; then it gains the identifier of the answer, and nothing else.

* `registrationRequest_eq_ok_iff`: a package is described by the request for it, if there is one.
* `register_all_or_nothing`: when a registration works, and what it has changed if not.
-/

namespace Custodian.Agent

open Appliance
open Json (Value)

variable {σ : Type} {s : Surroundings σ} {scene : Scene σ Package} {files : FileTree} {p : Package}
  {destination : Text}

/-! ### Descriptions -/

/-- A request describes a package that lies at a destination: a bag by its path, a compressed package by the
first fixity record in its pointer file. -/
inductive Describes (s : Surroundings σ) (files : FileTree) (p : Package) (destination : Text) :
    Request → Prop
  | bag (shape : p.shape = .uncompressed) : Describes s files p destination
      ⟨.post, s.endpoints.manifestRelease, .form (manifestContent (Path.relative s.spaceRoot destination))⟩
  | compressed {pointerFile content : Text} {bytes : Bytes} {root : Xml.Node} {fixity : Pointer.Fixity}
      (shape : p.shape = .compressed pointerFile) (readable : files.readFile pointerFile = .ok bytes)
      (text : Utf8.decode? bytes = some content) (document : Xml.Node.read? content = some root)
      (record : Pointer.first? [] root = some fixity) : Describes s files p destination
        ⟨.post, s.endpoints.fileRelease (Path.relative s.spaceRoot destination),
          .json (releaseContent p fixity)⟩

lemma pointerFixity_eq_ok_iff {path : Text} {fixity : Pointer.Fixity} :
    pointerFixity files path = .ok fixity ↔ ∃ bytes content root, files.readFile path = .ok bytes ∧
      Utf8.decode? bytes = some content ∧ Xml.Node.read? content = some root ∧
        Pointer.first? [] root = some fixity := by
  unfold pointerFixity
  rcases files.readFile path with fault | bytes
  · simp [Except.toOption]
  rcases htext : Utf8.decode? bytes with _ | content
  · simp [Except.toOption, htext]
  rcases hroot : Xml.Node.read? content with _ | root
  · simp [Except.toOption, htext, hroot, Pointer.read, Except.mapError]
  rcases hrecord : Pointer.first? [] root with _ | first <;>
    simp [Except.toOption, htext, hroot, hrecord, Pointer.read, Except.mapError]

lemma registrationRequest_compressed {pointerFile : Text} (shape : p.shape = .compressed pointerFile) :
    registrationRequest s files p destination = (pointerFixity files pointerFile).map fun fixity =>
      ⟨.post, s.endpoints.fileRelease (Path.relative s.spaceRoot destination),
        .json (releaseContent p fixity)⟩ := by
  rw [registrationRequest, shape]
  dsimp only
  rcases pointerFixity files pointerFile with e | fixity <;> rfl

lemma registrationRequest_bag (shape : p.shape = .uncompressed) :
    registrationRequest s files p destination = .ok ⟨.post, s.endpoints.manifestRelease,
      .form (manifestContent (Path.relative s.spaceRoot destination))⟩ := by
  rw [registrationRequest, shape]

/-- A package is described by the request for it, if there is one. -/
theorem registrationRequest_eq_ok_iff {request : Request} :
    registrationRequest s files p destination = .ok request ↔ Describes s files p destination request := by
  constructor
  · intro h
    rcases shape : p.shape with pointerFile | _
    · rw [registrationRequest_compressed shape] at h
      rcases hfixity : pointerFixity files pointerFile with e | fixity <;> rw [hfixity] at h
      · cases h
      · cases h
        obtain ⟨bytes, content, root, readable, text, document, record⟩ :=
          pointerFixity_eq_ok_iff.1 hfixity
        exact .compressed shape readable text document record
    · rw [registrationRequest_bag shape] at h
      cases h
      exact .bag shape
  · rintro (shape | ⟨shape, readable, text, document, record⟩)
    · exact registrationRequest_bag shape
    · rw [registrationRequest_compressed shape,
        pointerFixity_eq_ok_iff.2 ⟨_, _, _, readable, text, document, record⟩]
      rfl

lemma Describes.unique {a b : Request} (h : Describes s files p destination a)
    (h' : Describes s files p destination b) : a = b :=
  Except.ok.inj ((registrationRequest_eq_ok_iff.2 h).symm.trans (registrationRequest_eq_ok_iff.2 h'))

lemma exists_cause_of_pointerFixity {path : Text} {e : Error} (h : pointerFixity files path = .error e) :
    ∃ cause, e = .pointer cause := by
  unfold pointerFixity at h
  split at h
  · cases h
    exact ⟨_, rfl⟩
  · next content _ =>
    rcases hread : Pointer.read path content with cause | fixity <;> rw [hread] at h
    · cases h
      exact ⟨cause, rfl⟩
    · cases h

/-- Only its pointer file may keep a package from being described. -/
lemma exists_cause_of_registrationRequest {e : Error}
    (h : registrationRequest s files p destination = .error e) : ∃ cause, e = .pointer cause := by
  rcases shape : p.shape with pointerFile | _
  · rw [registrationRequest_compressed shape] at h
    rcases hfixity : pointerFixity files pointerFile with cause | fixity <;> rw [hfixity] at h
    · cases h
      exact exists_cause_of_pointerFixity hfixity
    · cases h
  · rw [registrationRequest_bag shape] at h
    cases h

/-! ### Answers -/

/-- An answer gives an identifier: it is complete, its status is 200 or 202, and the `id` in its body names
the identifier. -/
def Gives (exchange : Exchange) (id : Text) : Prop :=
  ∃ status body v member, exchange = .answered status body ∧ (status = 200 ∨ status = 202) ∧
    Value.read? (Utf8.decodeForgiving body) = some v ∧ v.get? "id" = some member ∧
      idText? member = some id

lemma gives_iff {request : Request} (post : request.method = .post) {exchange : Exchange} {id : Text} :
    Gives exchange id ↔ (Event.exchanged request exchange).acceptedId? = some id := by
  rcases exchange with _ | _ | status | ⟨status, body⟩
  · simp [Gives, Event.acceptedId?]
  · simp [Gives, Event.acceptedId?]
  · simp [Gives, Event.acceptedId?]
  · simp [Gives, Event.acceptedId?, post, Option.bind_eq_some_iff, idName]

lemma Gives.unique {exchange : Exchange} {a b : Text} (h : Gives exchange a) (h' : Gives exchange b) :
    a = b := by
  have post : (⟨.post, [], .nothing⟩ : Request).method = .post := rfl
  exact Option.some.inj (((gives_iff post).1 h).symm.trans ((gives_iff post).1 h'))

/-- What is wrong with an answer is neither the pointer file nor the store. -/
lemma ne_of_registrationAnswer {request : Request} {exchange : Exchange} {e : Error}
    (h : registrationAnswer request exchange = .error e) :
    (∀ cause, e ≠ .pointer cause) ∧ ∀ uuid reason, e ≠ .store uuid reason := by
  rcases exchange with _ | _ | status | ⟨status, body⟩
  · cases h
    exact ⟨nofun, nofun⟩
  · cases h
    exact ⟨nofun, nofun⟩
  · cases h
    exact ⟨nofun, nofun⟩
  · unfold registrationAnswer registeredId at h
    dsimp only at h
    split at h
    · split at h
      · cases h
        exact ⟨nofun, nofun⟩
      · split at h
        · cases h
          exact ⟨nofun, nofun⟩
        · cases h
    · cases h
      exact ⟨nofun, nofun⟩

/-! ### The registration -/

/-- How a registration ends: its result, and the scene then. -/
inductive Ends (s : Surroundings σ) (destination : Text) (scene : Scene σ Package) :
    Except Error Text → Scene σ Package → Prop
  /-- The package is not described. -/
  | undescribed {cause : Pointer.Error}
      (none : ∀ request, ¬Describes s (s.files scene.world) scene.held destination request) :
      Ends s destination scene (.error (.pointer cause)) scene
  /-- The answer gives no identifier. -/
  | refused {request : Request} {e : Error}
      (describes : Describes s (s.files scene.world) scene.held destination request)
      (none : ∀ id, ¬Gives (s.exchange request scene.world).1 id)
      (pointer : ∀ cause, e ≠ .pointer cause) (store : ∀ uuid reason, e ≠ .store uuid reason) :
      Ends s destination scene (.error e) (scene.after (s.exchange request) (.exchanged request))
  /-- The package has got its identifier, and was not saved. -/
  | unsaved {request : Request} {id reason : Text}
      (describes : Describes s (s.files scene.world) scene.held destination request)
      (gives : Gives (s.exchange request scene.world).1 id)
      (save : (s.save (scene.held.setIdentifier id) (s.exchange request scene.world).2).1 =
        .error reason) :
      Ends s destination scene (.error (.store scene.held.uuid reason))
        ((scene.after (s.exchange request) (.exchanged request)).keep s (scene.held.setIdentifier id))
  | saved {request : Request} {id : Text}
      (describes : Describes s (s.files scene.world) scene.held destination request)
      (gives : Gives (s.exchange request scene.world).1 id)
      (save : (s.save (scene.held.setIdentifier id) (s.exchange request scene.world).2).1 = .ok ()) :
      Ends s destination scene (.ok id)
        ((scene.after (s.exchange request) (.exchanged request)).keep s (scene.held.setIdentifier id))

/-- **A registration ends** with the first thing that is missing, or with a package that is saved. -/
theorem register_ends (s : Surroundings σ) (destination : Text) (scene : Scene σ Package) :
    Ends s destination scene (register s destination scene).1 (register s destination scene).2 := by
  unfold register
  rw [Job.held_bind_run, Job.files_bind_run, Job.ofExcept_bind_run]
  rcases hr : registrationRequest s (s.files scene.world) scene.held destination with e | request
  · obtain ⟨cause, rfl⟩ := exists_cause_of_registrationRequest hr
    refine .undescribed ?_
    intro request describes
    rw [registrationRequest_eq_ok_iff.2 describes] at hr
    cases hr
  have describes := registrationRequest_eq_ok_iff.1 hr
  have post := method_of_registrationRequest hr
  dsimp only
  rw [Job.exchange_bind_run, Job.ofExcept_bind_run]
  rcases ha : registrationAnswer request (s.exchange request scene.world).1 with e | id
  · obtain ⟨pointer, store⟩ := ne_of_registrationAnswer ha
    refine .refused describes ?_ pointer store
    intro id gives
    rw [gives_iff post, ← registrationAnswer_eq_ok_iff post, ha] at gives
    cases gives
  · have gives := (gives_iff post).2 ((registrationAnswer_eq_ok_iff post _ _).1 ha)
    dsimp only
    rw [Job.change_bind_run, Job.bind_run, Job.save_run]
    dsimp only [Scene.after_held, Scene.after_world]
    rcases hsave : (s.save (scene.held.setIdentifier id) (s.exchange request scene.world).2).1 with
      reason | ⟨⟩
    · exact .unsaved describes gives hsave
    · exact .saved describes gives hsave

/-! ### All or nothing -/

/-- A package has got an identifier, and nothing else about it has changed. -/
structure Gains (p : Package) (id : Text) (q : Package) : Prop where
  identifier : Table.get? "arkivum_identifier" q.attributes = some (.string id)
  status : q.status = p.status
  beside : SameBeside p q

lemma gains_setIdentifier (p : Package) (id : Text) : Gains p id (p.setIdentifier id) :=
  ⟨Table.get?_insert_self _ _ _, rfl, sameBeside_setIdentifier p id⟩

lemma attempts_after (request : Request) :
    (scene.since (scene.after (s.exchange request) (.exchanged request))).filterMap Event.attempt? = [] := by
  rw [Scene.since_after]
  rfl

lemma attempts_after_keep (request : Request) (q : Package) :
    (scene.since ((scene.after (s.exchange request) (.exchanged request)).keep s q)).filterMap
      Event.attempt? = [(q, (s.save q (s.exchange request scene.world).2).1)] := by
  rw [Scene.since_after_keep]
  rfl

/-- **Registration is all or nothing** up to the save, whatever the files, the appliance and the store do. It
gives an identifier exactly if some request describes the package, the answer to it gives this identifier,
and the package with the identifier can be saved. Then this is the package that is held, nothing else about
it has changed, and it was saved once. If the save has failed, the package differs by its new identifier
only. With any other error the package is as it was and no save was tried. The error is about the pointer file
exactly if no request describes the package, and then nothing was sent either. -/
theorem register_all_or_nothing (s : Surroundings σ) (destination : Text) (scene : Scene σ Package) :
    let run := register s destination scene
    let p := scene.held
    let attempts := (scene.since run.2).filterMap Event.attempt?
    (∀ id, run.1 = .ok id ↔
      ∃ request, Describes s (s.files scene.world) p destination request ∧
        let reply := s.exchange request scene.world
        Gives reply.1 id ∧ (s.save (p.setIdentifier id) reply.2).1 = .ok ()) ∧
    (∀ id, run.1 = .ok id → Gains p id run.2.held ∧ attempts = [(run.2.held, .ok ())]) ∧
    (∀ uuid reason, run.1 = .error (.store uuid reason) →
      ∃ id, Gains p id run.2.held ∧ attempts = [(run.2.held, .error reason)]) ∧
    (∀ e, run.1 = .error e → (∀ uuid reason, e ≠ .store uuid reason) →
      run.2.held = p ∧ attempts = []) ∧
    ((∃ cause, run.1 = .error (.pointer cause)) ↔
      ∀ request, ¬Describes s (s.files scene.world) p destination request) ∧
    ∀ cause, run.1 = .error (.pointer cause) → run.2 = scene := by
  intro run p attempts
  have ends : Ends s destination scene run.1 run.2 := register_ends s destination scene
  clear_value run
  obtain ⟨result, after⟩ := run
  dsimp only at ends attempts ⊢
  cases ends with
  | undescribed none =>
    refine ⟨?_, nofun, nofun, ?_, iff_of_true ⟨_, rfl⟩ none, fun _ _ => rfl⟩
    · intro id
      refine iff_of_false nofun ?_
      rintro ⟨request, describes, -⟩
      exact none request describes
    · intro e _ _
      exact ⟨rfl, by simp [attempts]⟩
  | @refused request e describes none pointer store =>
    refine ⟨?_, nofun, ?_, ?_, iff_of_false ?_ fun h => h request describes, ?_⟩
    · intro id
      refine iff_of_false nofun ?_
      rintro ⟨other, describes', gives, -⟩
      obtain rfl := describes.unique describes'
      exact none id gives
    · rintro uuid reason ⟨⟩
      exact absurd rfl (store uuid reason)
    · intro e _ _
      exact ⟨rfl, attempts_after request⟩
    · rintro ⟨cause, ⟨⟩⟩
      exact absurd rfl (pointer cause)
    · rintro cause ⟨⟩
      exact absurd rfl (pointer cause)
  | @unsaved request id reason describes gives save =>
    refine ⟨?_, nofun, ?_, ?_, iff_of_false nofun fun h => h request describes, nofun⟩
    · intro other
      refine iff_of_false nofun ?_
      rintro ⟨request', describes', gives', save'⟩
      obtain rfl := describes.unique describes'
      obtain rfl := gives.unique gives'
      rw [save] at save'
      cases save'
    · rintro uuid cause ⟨⟩
      refine ⟨id, gains_setIdentifier p id, ?_⟩
      rw [← save]
      exact attempts_after_keep request _
    · intro e he store
      cases he
      exact absurd rfl (store _ _)
  | @saved request id describes gives save =>
    refine ⟨?_, ?_, nofun, nofun, iff_of_false nofun fun h => h request describes, nofun⟩
    · intro other
      constructor
      · rintro ⟨⟩
        exact ⟨request, describes, gives, save⟩
      · rintro ⟨request', describes', gives', -⟩
        obtain rfl := describes.unique describes'
        rw [gives.unique gives']
    · rintro other ⟨⟩
      refine ⟨gains_setIdentifier p id, ?_⟩
      rw [← save]
      exact attempts_after_keep request _

end Custodian.Agent
