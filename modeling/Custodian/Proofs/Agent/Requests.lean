import Custodian.Proofs.Agent.Identifier
import Custodian.Proofs.Agent.Lifecycle
import Custodian.Proofs.Agent.Persistence
import Custodian.Proofs.Appliance.Payload
import Custodian.Proofs.FileTree.FirstFile

/-!
# What an operation asks of the appliance

The requests of an operation are determined by the package, the files and the answers. A package without
an identifier is registered, if it can be described. Then its state is asked for, if it has an identifier
now. What the answer leaves open is asked for once more: the replication of a bag at its tag file, and
whether a bag is at hand at its first file.

* `requests_bind`: the requests of a job that consists of two are those of the first one and then, if that
  has not failed, those of the second one.
* `perform_requests`: the requests of an operation are those that are planned for it.
-/

namespace Custodian.Agent

open Appliance
open Json (Value)

variable {σ ε α β : Type} {s : Surroundings σ} {scope : Scope} {scene : Scene σ Package}

/-! ### Requests and answers -/

/-- The request of an exchange. -/
def Event.request? : Event → Option Request
  | .exchanged request _ => some request
  | _ => none

/-- The requests among some events, in order. -/
def requests (events : List Event) : List Request :=
  events.filterMap Event.request?

/-- The request that asks for what is at a URL. -/
def question (url : Text) : Request :=
  ⟨.get, url, .nothing⟩

/-- The value that an event answers a question at a URL with: the status is 200, and the body is JSON. -/
def Event.answer? (url : Text) : Event → Option Value
  | .exchanged request (.answered status body) =>
    if request = question url ∧ status = 200 then Value.read? (Utf8.decodeForgiving body) else none
  | _ => none

/-- The value that a question at a URL was answered with. -/
def told? (events : List Event) (url : Text) : Option Value :=
  events.findSome? (Event.answer? url)

/-- The identifier of a package after some events: its own, or else that of an acceptable answer to a
registration. -/
def identifierAfter (p : Package) (events : List Event) : Option Text :=
  match p.identifier? with
  | some id => some id
  | none => (events.filterMap Event.acceptedId?).head?

/-- The value that the question for the state of a package was answered with. -/
def stateTold? (s : Surroundings σ) (p : Package) (events : List Event) : Option Value :=
  (identifierAfter p events).bind fun id => told? events (statusUrl s p id)

/-! ### Plans -/

section Plans

variable (s : Surroundings σ) (p : Package) (events : List Event)

/-- The request that registers a package which lies at a destination. There is none if the package has an
identifier, or if it is compressed and its pointer file holds no fixity record. -/
def registering (files : FileTree) (destination : Text) : List Request :=
  let path := Path.relative s.spaceRoot destination
  match p.identifier?, p.shape with
  | some _, _ => []
  | none, .uncompressed => [⟨.post, s.endpoints.manifestRelease, .form (manifestContent path)⟩]
  | none, .compressed pointerFile =>
    match pointerFixity files pointerFile with
    | .ok fixity => [⟨.post, s.endpoints.fileRelease path, .json (releaseContent p fixity)⟩]
    | .error _ => []

/-- The question for the state of a package, if it has an identifier after some events. -/
def askingState : List Request :=
  match identifierAfter p events with
  | none => []
  | some id => [question (statusUrl s p id)]

/-- A registration that is due, and the question for the state. -/
def polling (files : FileTree) : List Request :=
  registering s p files (p.fullPath s.spaceRoot) ++ askingState s p events

/-- The question for the tag file of a bag whose state, if it is told, has no text as replication. -/
def askingTagFile : Option Value → List Request
  | none => []
  | some state =>
    match p.shape, state.get? Replication.fieldName with
    | .compressed _, _ => []
    | .uncompressed, some (.string _) => []
    | .uncompressed, _ => [question (s.endpoints.bagInfo p.location p.currentPath)]

/-- Whether there is a file below the directory of a package. -/
def holdsFile (files : FileTree) : Bool :=
  match files.directory (p.fullPath s.spaceRoot) with
  | .ok directory => directory.holdsFile
  | .error _ => false

/-- The question for the first file of a bag whose state, if it is told, leaves open whether the bag is at
hand. -/
def askingFirstFile (files : FileTree) (state : Option Value) : List Request :=
  match p.shape, state.bind Manifest.ofJson? with
  | .uncompressed, some manifest =>
    if manifest.isLocal = none ∧ holdsFile s p files = true then
      [question (fileUrl s p ((firstFile files (p.fullPath s.spaceRoot)).toOption.getD []))]
    else []
  | _, _ => []

/-- The requests of an operation on a package, given the events of the operation, the files at its start,
and the files once the state of the package has been asked for. -/
def planned (before polled : FileTree) : Operation → List Request
  | .announce destination => registering s p before destination
  | .updateStatus => polling s p events before ++ askingTagFile s p (stateTold? s p events)
  | .isFileLocal path _ =>
    match p.shape, path with
    | .uncompressed, some path => [question (fileUrl s p path)]
    | _, _ => polling s p events before ++ askingFirstFile s p polled (stateTold? s p events)
  | .checkFixity => if p.isCompressed then [] else polling s p events before
  | .deletePath path => [⟨.delete, s.endpoints.delete path, .nothing⟩]
  | .browse _ => []
  | .fetch .. => []
  | .deposit .. => []

end Plans

/-! ### Requests of jobs -/

@[simp]
lemma requests_nil : requests [] = [] := rfl

@[simp]
lemma requests_append (events later : List Event) :
    requests (events ++ later) = requests events ++ requests later :=
  List.filterMap_append

lemma Scene.since_append_of_grows {a b c : Scene σ Package} (hab : a.events <+: b.events)
    (hbc : b.events <+: c.events) : a.since c = a.since b ++ b.since c := by
  obtain ⟨new, hb⟩ := hab
  obtain ⟨later, hc⟩ := hbc
  rw [Scene.since_of_eq hb.symm, Scene.since_of_eq hc.symm]
  apply Scene.since_of_eq
  rw [← hc, ← hb, List.append_assoc]

lemma Course.grows {a b : Scene σ Package} (h : Course s scope a b) : a.events <+: b.events :=
  ⟨a.since b, h.events_eq.symm⟩

lemma requests_bind {job : Job σ Package ε α} {next : α → Job σ Package ε β}
    (hjob : scene.events <+: (job scene).2.events)
    (hnext : ∀ a, (job scene).1 = .ok a → (job scene).2.events <+: (next a (job scene).2).2.events) :
    requests (scene.since ((job >>= next) scene).2) =
      requests (scene.since (job scene).2) ++ match (job scene).1 with
        | .ok a => requests ((job scene).2.since (next a (job scene).2).2)
        | .error _ => [] := by
  rcases hr : (job scene).1 with e | a
  · rw [Job.bind_run_error hr, List.append_nil]
  · rw [Job.bind_run_ok hr, Scene.since_append_of_grows hjob (hnext a hr), requests_append]

lemma grows_bind {job : Job σ Package ε α} {next : α → Job σ Package ε β}
    (hjob : scene.events <+: (job scene).2.events)
    (hnext : ∀ a scene, scene.events <+: (next a scene).2.events) :
    scene.events <+: ((job >>= next) scene).2.events := by
  rcases hr : (job scene).1 with e | a
  · rw [Job.bind_run_error hr]
    exact hjob
  · rw [Job.bind_run_ok hr]
    exact hjob.trans (hnext a _)

/-- A job followed by one that does nothing to the scene. -/
lemma bind_still {job : Job σ Package ε α} {next : α → Job σ Package ε β}
    (still : ∀ a scene, (next a scene).2 = scene) : ((job >>= next) scene).2 = (job scene).2 := by
  rcases hr : (job scene).1 with e | a
  · rw [Job.bind_run_error hr]
  · rw [Job.bind_run_ok hr, still]

/-! ### Registration -/

lemma register_requests (s : Surroundings σ) (destination : Text) (scene : Scene σ Package) :
    requests (scene.since (register s destination scene).2) =
      (registrationRequest s (s.files scene.world) scene.held destination).toOption.toList := by
  unfold register
  rw [Job.held_bind_run, Job.files_bind_run, Job.ofExcept_bind_run]
  rcases registrationRequest s (s.files scene.world) scene.held destination with e | request
  · simp [Except.toOption]
  · dsimp only
    rw [Job.exchange_bind_run, Job.ofExcept_bind_run]
    rcases registrationAnswer request (s.exchange request scene.world).1 with e | id
    · simp [requests, Event.request?, Except.toOption]
    · dsimp only
      rw [Job.change_bind_run, Job.bind_run, Job.save_run]
      have hkept : requests (scene.since ((scene.after (s.exchange request)
          (.exchanged request)).keep s (scene.held.setIdentifier id))) = [request] := by
        simp [Scene.since_after_keep, requests, Event.request?]
      rcases (s.save _ _).1 <;> exact hkept

lemma registering_eq {p : Package} (absent : p.identifier? = none) (files : FileTree)
    (destination : Text) : registering s p files destination =
      (registrationRequest s files p destination).toOption.toList := by
  rcases hshape : p.shape with pointerFile | _ <;>
    simp only [registering, registrationRequest, absent, hshape]
  · rcases pointerFixity files pointerFile with e | fixity <;> rfl
  · rfl

lemma registering_of_identifier {p : Package} {id : Text} (present : p.identifier? = some id)
    (files : FileTree) (destination : Text) : registering s p files destination = [] := by
  simp only [registering, present]

lemma ensureRegistered_requests (s : Surroundings σ) (scene : Scene σ Package) :
    requests (scene.since (ensureRegistered s scene).2) =
      registering s scene.held (s.files scene.world) (scene.held.fullPath s.spaceRoot) := by
  unfold ensureRegistered
  rw [Job.held_bind_run]
  rcases hid : scene.held.identifier? with _ | id
  · rw [registering_eq hid, ← register_requests]
    rfl
  · rw [registering_of_identifier hid]
    simp

lemma announce_requests (s : Surroundings σ) (destination : Text) (scene : Scene σ Package) :
    requests (scene.since (announce s destination scene).2) =
      registering s scene.held (s.files scene.world) destination := by
  unfold announce
  rw [Job.held_bind_run]
  rcases hid : scene.held.identifier? with _ | id
  · rw [registering_eq hid, ← register_requests]
    dsimp only
    rw [Job.bind_run]
    dsimp only [Job.mapError]
    rcases register s destination scene with ⟨_ | _, after⟩ <;> rfl
  · rw [registering_of_identifier hid]
    simp

/-! ### The state -/

lemma ask_requests (url : Text) (subject : Subject) :
    requests (scene.since (ask s url subject scene).2) = [question url] := by
  have hsince : scene.since (ask s url subject scene).2 =
      [.exchanged (question url) (s.exchange (question url) scene.world).1] :=
    Scene.since_after _ _ _
  rw [hsince]
  rfl

lemma ask_grows (s : Surroundings σ) (url : Text) (subject : Subject) (scene : Scene σ Package) :
    scene.events <+: (ask s url subject scene).2.events :=
  List.prefix_append _ _

lemma Course.identifierAfter {a b : Scene σ Package} (h : Course s scope a b) :
    identifierAfter a.held (a.since b) = b.held.identifier? := by
  unfold Agent.identifierAfter
  rcases hid : a.held.identifier? with _ | id
  · rw [h.acceptedIds hid]
    cases b.held.identifier? <;> rfl
  · exact (h.identifier_kept hid).1.symm

lemma told?_append (events later : List Event) (url : Text) :
    told? (events ++ later) url = (told? events url).or (told? later url) :=
  List.findSome?_append

lemma answer?_of_post {request : Request} (post : request.method = .post) (exchange : Exchange)
    (url : Text) : (Event.exchanged request exchange).answer? url = none := by
  have hne : request ≠ question url := by
    rintro rfl
    cases post
  cases exchange <;> simp [Event.answer?, hne]

/-- Nothing is told in the course of a registration. -/
lemma told?_ensureRegistered (s : Surroundings σ) (scene : Scene σ Package) (url : Text) :
    told? (scene.since (ensureRegistered s scene).2) url = none := by
  unfold ensureRegistered
  rw [Job.held_bind_run]
  rcases scene.held.identifier? with _ | id
  · change told? (scene.since (register s _ scene).2) url = none
    rcases register_cases s (scene.held.fullPath s.spaceRoot) scene with
      h | ⟨request, post, ⟨-, h⟩ | ⟨id, -, h⟩⟩ <;> rw [h]
    · simp [told?]
    · simp [told?, answer?_of_post post]
    · rw [Scene.since_after_keep, told?, List.findSome?_cons, answer?_of_post post]
      rfl
  · simp [told?]

/-- What a question comes to is what it is answered with. -/
lemma told?_ask (s : Surroundings σ) (url : Text) (subject : Subject) (scene : Scene σ Package) :
    told? (scene.since (ask s url subject scene).2) url = (ask s url subject scene).1.toOption := by
  have hsince : scene.since (ask s url subject scene).2 =
      [.exchanged (question url) (s.exchange (question url) scene.world).1] :=
    Scene.since_after _ _ _
  have hanswer : (ask s url subject scene).1 =
      answeredValue (question url) subject (s.exchange (question url) scene.world).1 := rfl
  rw [hsince, hanswer, told?, List.findSome?_singleton]
  rcases (s.exchange (question url) scene.world).1 with _ | _ | status | ⟨status, body⟩
  · rfl
  · rfl
  · rfl
  · by_cases hstatus : status = 200
    · cases hread : Value.read? (Utf8.decodeForgiving body) <;>
        simp [Event.answer?, answeredValue, hstatus, hread, Except.toOption]
    · simp [Event.answer?, answeredValue, hstatus, Except.toOption]

lemma ensureRegistered_ok (s : Surroundings σ) (scene : Scene σ Package) :
    (ensureRegistered s scene).1 = .ok () := by
  unfold ensureRegistered
  rw [Job.held_bind_run]
  rcases scene.held.identifier? with _ | id <;> rfl

lemma Course.statusUrl {a b : Scene σ Package} (h : Course s scope a b) (id : Text) :
    statusUrl s b.held id = statusUrl s a.held id := by
  simp only [Agent.statusUrl, h.sameBeside.shape]

/-- The question for the state goes on from the registration, if there is an identifier then. -/
lemma fetchStatus_eq (s : Surroundings σ) (scene : Scene σ Package) :
    fetchStatus s scene = match (ensureRegistered s scene).2.held.identifier? with
      | none => (.error .notRegistered, (ensureRegistered s scene).2)
      | some id => ask s (statusUrl s scene.held id) .package (ensureRegistered s scene).2 := by
  have hcourse : Course s .none scene (ensureRegistered s scene).2 := ensureRegistered_course
  unfold fetchStatus
  rw [Job.bind_run_ok (ensureRegistered_ok s scene), Job.held_bind_run]
  rcases (ensureRegistered s scene).2.held.identifier? with _ | id
  · rfl
  · dsimp only
    rw [hcourse.statusUrl]

lemma identifierAfter_fetchStatus (s : Surroundings σ) (scene : Scene σ Package) :
    identifierAfter scene.held (scene.since (fetchStatus s scene).2) =
      (ensureRegistered s scene).2.held.identifier? := by
  have hfetch : Course s .none scene (fetchStatus s scene).2 := fetchStatus_course
  rw [hfetch.identifierAfter, fetchStatus_eq]
  rcases hid : (ensureRegistered s scene).2.held.identifier? with _ | id <;> exact hid

lemma fetchStatus_requests (s : Surroundings σ) (scene : Scene σ Package) :
    requests (scene.since (fetchStatus s scene).2) =
      polling s scene.held (scene.since (fetchStatus s scene).2) (s.files scene.world) := by
  have hcourse : Course s .none scene (ensureRegistered s scene).2 := ensureRegistered_course
  rw [polling, askingState, identifierAfter_fetchStatus, ← ensureRegistered_requests, fetchStatus_eq]
  rcases (ensureRegistered s scene).2.held.identifier? with _ | id
  · simp
  · dsimp only
    rw [Scene.since_append_of_grows hcourse.grows (ask_grows _ _ _ _), requests_append, ask_requests]

/-- What the question for the state comes to is what it is answered with. -/
lemma stateTold?_fetchStatus (s : Surroundings σ) (scene : Scene σ Package) :
    stateTold? s scene.held (scene.since (fetchStatus s scene).2) =
      (fetchStatus s scene).1.toOption := by
  have hcourse : Course s .none scene (ensureRegistered s scene).2 := ensureRegistered_course
  rw [stateTold?, identifierAfter_fetchStatus, fetchStatus_eq]
  rcases (ensureRegistered s scene).2.held.identifier? with _ | id
  · rfl
  · rw [Option.bind_some, Scene.since_append_of_grows hcourse.grows (ask_grows _ _ _ _), told?_append,
      told?_ensureRegistered, Option.none_or, told?_ask]

/-! ### After the answer -/

section Later

variable {p : Package} {events : List Event} (later : List Event)

lemma identifierAfter_append {id : Text} (h : identifierAfter p events = some id) :
    identifierAfter p (events ++ later) = some id := by
  unfold identifierAfter at h ⊢
  rcases hid : p.identifier? with _ | own <;> rw [hid] at h
  · dsimp only at h ⊢
    rw [List.filterMap_append, List.head?_append, h, Option.some_or]
  · exact h

lemma stateTold?_append {payload : Value} (h : stateTold? s p events = some payload) :
    stateTold? s p (events ++ later) = some payload := by
  obtain ⟨id, hid, htold⟩ := Option.bind_eq_some_iff.1 h
  rw [stateTold?, identifierAfter_append later hid, Option.bind_some, told?_append, htold, Option.some_or]

/-- Once the state is told, nothing that happens later changes what had to be asked for it. -/
lemma polling_append {payload : Value} (h : stateTold? s p events = some payload) (files : FileTree) :
    polling s p (events ++ later) files = polling s p events files := by
  obtain ⟨id, hid, -⟩ := Option.bind_eq_some_iff.1 h
  rw [polling, polling, askingState, askingState, hid, identifierAfter_append later hid]

end Later

section Quiet

variable {later : List Event} (quiet : requests later = [])

include quiet

lemma not_exchanged {e : Event} (he : e ∈ later) (request : Request) (exchange : Exchange) :
    e ≠ .exchanged request exchange := by
  rintro rfl
  have hrequest := List.filterMap_eq_nil_iff.1 quiet _ he
  cases hrequest

lemma identifierAfter_append_quiet (p : Package) (events : List Event) :
    identifierAfter p (events ++ later) = identifierAfter p events := by
  have hlater : later.filterMap Event.acceptedId? = [] := by
    refine List.filterMap_eq_nil_iff.2 ?_
    intro e he
    cases e with
    | exchanged request exchange => exact absurd rfl (not_exchanged quiet he request exchange)
    | _ => rfl
  rw [identifierAfter, identifierAfter, List.filterMap_append, hlater, List.append_nil]

lemma told?_append_quiet (events : List Event) (url : Text) :
    told? (events ++ later) url = told? events url := by
  have hlater : told? later url = none := by
    refine List.findSome?_eq_none_iff.2 ?_
    intro e he
    cases e with
    | exchanged request exchange => exact absurd rfl (not_exchanged quiet he request exchange)
    | _ => rfl
  rw [told?_append, hlater, Option.or_none]

lemma stateTold?_append_quiet (s : Surroundings σ) (p : Package) (events : List Event) :
    stateTold? s p (events ++ later) = stateTold? s p events := by
  simp only [stateTold?, identifierAfter_append_quiet quiet, told?_append_quiet quiet]

end Quiet

/-- A job that goes on from the state of a package. What it asks for beside the state depends on what is
told. -/
lemma fetchStatus_bind_requests (next : Value → Job σ Package Error α)
    (more : Option Value → List Request)
    (hgrows : ∀ payload, (fetchStatus s scene).2.events <+:
      (next payload (fetchStatus s scene).2).2.events)
    (hmore : ∀ payload, requests ((fetchStatus s scene).2.since (next payload (fetchStatus s scene).2).2) =
      more (some payload))
    (hnone : more none = []) :
    let after := ((fetchStatus s >>= next) scene).2
    requests (scene.since after) = polling s scene.held (scene.since after) (s.files scene.world) ++
      more (stateTold? s scene.held (scene.since after)) := by
  intro after
  have hfetch : Course s .none scene (fetchStatus s scene).2 := fetchStatus_course
  have htold := stateTold?_fetchStatus s scene
  have hasked := fetchStatus_requests s scene
  rcases hr : (fetchStatus s scene).1 with e | payload
  · have hafter : after = (fetchStatus s scene).2 := congrArg Prod.snd (Job.bind_run_error hr next)
    rw [hafter, htold, hr, hasked]
    simp [Except.toOption, hnone]
  · have hafter : after = (next payload (fetchStatus s scene).2).2 :=
      congrArg Prod.snd (Job.bind_run_ok hr next)
    rw [hr] at htold
    have hsince := Scene.since_append_of_grows hfetch.grows (hgrows payload)
    rw [hafter, hsince, requests_append, hasked, hmore, polling_append _ htold, stateTold?_append _ htold]

/-! ### Questions -/

/-- A bag whose replication is not reported is asked about at its tag file. -/
lemma askingTagFile_of_silent {p : Package} (bag : p.shape = .uncompressed) {state : Value}
    (silent : Replication.report? state = none) :
    askingTagFile s p (some state) = [question (s.endpoints.bagInfo p.location p.currentPath)] := by
  unfold askingTagFile
  dsimp only
  rw [bag]
  split
  · next heq => cases heq
  · next heq =>
    rw [report?_eq_some_iff.2 heq] at silent
    cases silent
  · rfl

lemma replicationReport_requests (s : Surroundings σ) (payload : Value) (scene : Scene σ Package) :
    requests (scene.since (replicationReport s payload scene).2) =
      askingTagFile s scene.held (some payload) := by
  unfold replicationReport
  rw [Job.held_bind_run]
  rcases hshape : scene.held.shape with pointerFile | _
  · simp [askingTagFile, hshape]
  · dsimp only
    rcases hreport : Replication.report? payload with _ | report
    · dsimp only
      rw [bind_still fun _ _ => rfl, ask_requests, askingTagFile_of_silent hshape hreport]
    · simp [askingTagFile, hshape, report?_eq_some_iff.1 hreport]

lemma askFile_requests (s : Surroundings σ) (path : Text) (scene : Scene σ Package) :
    requests (scene.since (askFile s path scene).2) = [question (fileUrl s scene.held path)] := by
  unfold askFile
  rw [Job.held_bind_run, bind_still fun _ _ => rfl, ask_requests]

lemma fixity_requests (s : Surroundings σ) (scene : Scene σ Package) :
    let after := (fixity s scene).2
    requests (scene.since after) = if scene.held.isCompressed then [] else
      polling s scene.held (scene.since after) (s.files scene.world) := by
  unfold fixity Package.isCompressed
  rw [Job.held_bind_run]
  rcases scene.held.shape with pointerFile | _
  · simp
  · dsimp only
    rw [bind_still (fun v scene => bind_still fun _ _ => rfl), fetchStatus_requests]
    rfl

lemma notify_requests (s : Surroundings σ) (path id : Option Text) (scene : Scene σ Package) :
    requests (scene.since (notify s path id scene).2) = [] := by
  unfold notify
  rw [Job.held_bind_run]
  split
  · simp
  · have hsent : requests (scene.since (scene.after (s.send (Notice.mail s.superusers scene.held path id))
        (.sent (Notice.mail s.superusers scene.held path id)))) = [] := by
      simp [requests, Event.request?]
    exact hsent

/-- A directory has a first file exactly if there is a file below it. -/
lemma isSome_firstFile (s : Surroundings σ) (p : Package) (files : FileTree) :
    (firstFile files (p.fullPath s.spaceRoot)).toOption.isSome = holdsFile s p files := by
  unfold firstFile holdsFile
  rcases files.directory (p.fullPath s.spaceRoot) with fault | directory
  · rfl
  · dsimp only [Except.toOption, Option.bind_some]
    rw [← Node.isSome_firstFile?]
    rcases directory.firstFile? with _ | place <;> rfl

/-- The first file of a bag is asked about exactly if the state of the bag is written in what was told, leaves
open whether the bag is at hand, and there is a file. -/
lemma askingFirstFile_ne_nil_iff {p : Package} {files : FileTree} {state : Option Value} :
    askingFirstFile s p files state ≠ [] ↔ p.shape = .uncompressed ∧ holdsFile s p files = true ∧
      ∃ v m, state = some v ∧ Manifest.WrittenAs m v ∧ m.isLocal = none := by
  have hread : (∃ v m, state = some v ∧ Manifest.WrittenAs m v ∧ m.isLocal = none) ↔
      ∃ m, state.bind Manifest.ofJson? = some m ∧ m.isLocal = none := by
    simp only [Option.bind_eq_some_iff, Manifest.ofJson?_eq_some_iff]
    tauto
  rw [hread]
  unfold askingFirstFile
  rcases p.shape with pointerFile | _ <;> rcases state.bind Manifest.ofJson? with _ | m <;> simp [and_comm]

lemma askingTagFile_congr {p q : Package} (h : SameBeside p q) (state : Option Value) :
    askingTagFile s q state = askingTagFile s p state := by
  cases state with
  | none => rfl
  | some state => simp only [askingTagFile, h.shape, h.location, h.currentPath]

lemma askingFirstFile_congr {p q : Package} (h : SameBeside p q) (files : FileTree)
    (state : Option Value) : askingFirstFile s q files state = askingFirstFile s p files state := by
  have hpath : q.fullPath s.spaceRoot = p.fullPath s.spaceRoot := by
    rw [Package.fullPath, Package.fullPath, h.location, h.currentPath]
  have hurl : ∀ path, fileUrl s q path = fileUrl s p path := by
    intro path
    rw [fileUrl, fileUrl, h.location, h.currentPath]
  have hholds : holdsFile s q files = holdsFile s p files := by
    rw [holdsFile, holdsFile, hpath]
  unfold askingFirstFile
  rw [h.shape, hpath]
  simp only [hurl, hholds]

/-- What is left to do about a whole bag once its state is known. -/
def consultBag (s : Surroundings σ) (state : Value) : Job σ Package Error (FileInfo × Option Text) := do
  let status ← Job.ofExcept (decode Manifest.ofJson? .package state)
  match status.isLocal with
  | some _ => return (status.fileInfo, none)
  | none =>
    let files ← Job.files s
    let p ← Job.held
    let sample ← Job.ofExcept (firstFile files (p.fullPath s.spaceRoot))
    return (← askFile s sample, some sample)

lemma consultBag_requests (s : Surroundings σ) (state : Value) (scene : Scene σ Package)
    (bag : scene.held.shape = .uncompressed) :
    let after := (consultBag s state scene).2
    scene.events <+: after.events ∧
      requests (scene.since after) = askingFirstFile s scene.held (s.files scene.world) (some state) := by
  unfold consultBag askingFirstFile decode
  rw [Job.ofExcept_bind_run, bag, Option.bind_some]
  rcases Manifest.ofJson? state with _ | manifest
  · simp
  dsimp only
  rcases manifest.isLocal with _ | found
  · dsimp only
    rw [Job.files_bind_run, Job.held_bind_run, Job.ofExcept_bind_run, ← isSome_firstFile]
    rcases firstFile (s.files scene.world) (scene.held.fullPath s.spaceRoot) with e | sample
    · simp [Except.toOption]
    · dsimp only
      rw [bind_still fun _ _ => rfl, askFile_requests]
      refine ⟨?_, ?_⟩
      · exact (askFile_course sample : Course s .none _ _).grows
      · simp [Except.toOption]
  · simp

lemma consult_requests (s : Surroundings σ) (path : Option Text) (scene : Scene σ Package) :
    let after := (consult s path scene).2
    requests (scene.since after) = match scene.held.shape, path with
      | .uncompressed, some path => [question (fileUrl s scene.held path)]
      | _, _ => polling s scene.held (scene.since after) (s.files scene.world) ++
        askingFirstFile s scene.held (s.files (fetchStatus s scene).2.world)
          (stateTold? s scene.held (scene.since after)) := by
  unfold consult
  rw [Job.held_bind_run]
  rcases hshape : scene.held.shape with pointerFile | _
  · dsimp only
    rw [bind_still, fetchStatus_requests]
    · rw [askingFirstFile, hshape]
      simp
    · intro v scene
      apply bind_still
      intro status scene
      rcases status.fileInformation with _ | info <;> rfl
  · rcases path with _ | path
    · have hfetch : Course s .none scene (fetchStatus s scene).2 := fetchStatus_course
      have hbag := fun state => consultBag_requests s state (fetchStatus s scene).2
        (hfetch.sameBeside.shape.trans hshape)
      have hconsult := fetchStatus_bind_requests (consultBag s)
        (askingFirstFile s scene.held (s.files (fetchStatus s scene).2.world))
        (fun state => (hbag state).1) ?_ ?_
      · exact hconsult
      · intro state
        rw [(hbag state).2, askingFirstFile_congr hfetch.sameBeside]
      · simp [askingFirstFile, hshape]
    · dsimp only
      rw [bind_still fun _ _ => rfl, askFile_requests]

/-- After the consultation there is at most a mail. -/
lemma locality_cases (s : Surroundings σ) (path : Option Text) (tell : Bool) (scene : Scene σ Package) :
    (locality s path tell scene).2 = (consult s path scene).2 ∨
      ∃ about id, (locality s path tell scene).2 = (notify s about id (consult s path scene).2).2 := by
  unfold locality
  rcases hr : (consult s path scene).1 with e | ⟨info, about⟩
  · rw [Job.bind_run_error hr]
    exact .inl rfl
  · rw [Job.bind_run_ok hr]
    dsimp only
    split
    · exact .inl rfl
    · cases tell with
      | false => exact .inl rfl
      | true => exact .inr ⟨about, info.id.bind idText?, bind_still fun _ _ => rfl⟩

lemma locality_requests (s : Surroundings σ) (path : Option Text) (tell : Bool)
    (scene : Scene σ Package) :
    let after := (locality s path tell scene).2
    requests (scene.since after) = match scene.held.shape, path with
      | .uncompressed, some path => [question (fileUrl s scene.held path)]
      | _, _ => polling s scene.held (scene.since after) (s.files scene.world) ++
        askingFirstFile s scene.held (s.files (fetchStatus s scene).2.world)
          (stateTold? s scene.held (scene.since after)) := by
  intro after
  have hconsult : Course s .none scene (consult s path scene).2 := consult_course path
  obtain ⟨later, hlater, quiet⟩ : ∃ later : List Event,
      scene.since after = scene.since (consult s path scene).2 ++ later ∧ requests later = [] := by
    rcases locality_cases s path tell scene with h | ⟨about, id, h⟩
    · exact ⟨[], by rw [List.append_nil, ← h], rfl⟩
    · refine ⟨_, ?_, notify_requests s about id (consult s path scene).2⟩
      have hnotify : Course s .none (consult s path scene).2
          (notify s about id (consult s path scene).2).2 := notify_course about id
      rw [← hconsult.since_append hnotify, ← h]
  have hpolling : polling s scene.held (scene.since after) (s.files scene.world) =
      polling s scene.held (scene.since (consult s path scene).2) (s.files scene.world) := by
    rw [polling, polling, askingState, askingState, hlater, identifierAfter_append_quiet quiet]
  rw [hpolling, hlater, requests_append, quiet, List.append_nil, stateTold?_append_quiet quiet]
  exact consult_requests s path scene

/-- What is left to do once the replication is known asks for nothing. -/
lemma conclude_requests (s : Surroundings σ) (report : Text) (scene : Scene σ Package) :
    let after := ((if Replication.ofReport report = .green then
      markUploaded s >>= fun _ => answerStatus report else answerStatus report) scene).2
    scene.events <+: after.events ∧ requests (scene.since after) = [] := by
  have hstill : ∀ scene : Scene σ Package, (answerStatus report scene).2 = scene := fun _ => rfl
  split
  · by_cases hstatus : scene.held.status = .uploaded
    · rw [bind_still fun _ _ => rfl, markUploaded_run_uploaded hstatus]
      simp
    · rw [bind_still fun _ _ => rfl, markUploaded_run hstatus]
      simp [requests, Event.request?]
  · rw [hstill]
    simp

lemma reconcile_requests (s : Surroundings σ) (scene : Scene σ Package) :
    let after := (reconcile s scene).2
    requests (scene.since after) = polling s scene.held (scene.since after) (s.files scene.world) ++
      askingTagFile s scene.held (stateTold? s scene.held (scene.since after)) := by
  have hfetch : Course s .none scene (fetchStatus s scene).2 := fetchStatus_course
  have hreport : ∀ payload, (fetchStatus s scene).2.events <+:
      (replicationReport s payload (fetchStatus s scene).2).2.events := by
    intro payload
    exact (replicationReport_course : Course s .none _ _).grows
  rw [reconcile_eq]
  apply fetchStatus_bind_requests
  · intro payload
    exact grows_bind (hreport payload) fun report scene => (conclude_requests s report scene).1
  · intro payload
    rw [requests_bind (hreport payload) fun report _ => (conclude_requests s report _).1,
      replicationReport_requests, askingTagFile_congr hfetch.sameBeside]
    rcases (replicationReport s payload (fetchStatus s scene).2).1 with e | report
    · simp
    · simp [(conclude_requests s report _).2]
  · rfl

/-! ### Transfers -/

/-- A job that only moves and lists files of the space. -/
structure IsTransfer (job : Job σ Package ε α) : Prop where
  grows : ∀ scene : Scene σ Package, scene.events <+: (job scene).2.events
  quiet : ∀ scene : Scene σ Package, requests (scene.since (job scene).2) = []

lemma isTransfer_act {call : σ → β × σ} {event : β → Event} {next : β → Job σ Package ε α}
    (transfer : ∀ b, (event b).isTransfer = true) (still : ∀ b (scene : Scene σ Package), (next b scene).2 = scene) :
    IsTransfer (Job.act call event >>= next) := by
  have hrun : ∀ scene : Scene σ Package,
      ((Job.act call event >>= next) scene).2 = scene.after call event :=
    fun scene => bind_still still
  refine ⟨?_, ?_⟩
  · intro scene
    rw [hrun]
    exact List.prefix_append _ _
  · intro scene
    have hevent := transfer (call scene.world).1
    rw [hrun, Scene.since_after, requests, List.filterMap_cons, List.filterMap_nil]
    revert hevent
    cases event (call scene.world).1 <;> simp [Event.isTransfer, Event.request?]

lemma IsTransfer.bind {job : Job σ Package ε α} {next : α → Job σ Package ε β} (h : IsTransfer job)
    (hnext : ∀ a, IsTransfer (next a)) : IsTransfer (job >>= next) where
  grows scene := grows_bind (h.grows scene) fun a => (hnext a).grows
  quiet scene := by
    rw [requests_bind (h.grows scene) fun a _ => (hnext a).grows _, h.quiet]
    rcases (job scene).1 with e | a
    · rfl
    · exact (hnext a).quiet _

section Transfers

variable (s : Surroundings σ)

lemma isTransfer_createLocally (path : Text) :
    IsTransfer (createLocally s path : Job σ Package TransferError Unit) :=
  isTransfer_act (fun _ => rfl) fun _ _ => rfl

lemma isTransfer_createRemotely (path : Text) (remote : Remote) :
    IsTransfer (createRemotely s path remote : Job σ Package TransferError Unit) :=
  isTransfer_act (fun _ => rfl) fun _ _ => rfl

lemma isTransfer_move (source target : Text) (tryRename : Bool) :
    IsTransfer (move s source target tryRename : Job σ Package TransferError Unit) :=
  isTransfer_act (fun _ => rfl) fun _ _ => rfl

lemma isTransfer_browse (path : Text) :
    IsTransfer (browse s path : Job σ Package TransferError Listing) := by
  unfold browse
  rcases s.remote? with _ | remote
  · exact isTransfer_act (fun _ => rfl) fun _ _ => rfl
  · exact isTransfer_act (fun _ => rfl) fun _ _ => rfl

lemma isTransfer_fetch (source target : Text) :
    IsTransfer (fetch s source target : Job σ Package TransferError Unit) :=
  (isTransfer_createLocally s target).bind fun _ => isTransfer_move s _ target false

lemma isTransfer_deposit (source target : Text) :
    IsTransfer (deposit s source target : Job σ Package TransferError Unit) := by
  unfold deposit
  rcases s.remote? with _ | remote
  · exact (isTransfer_createLocally s target).bind fun _ => isTransfer_move s source target true
  · exact (isTransfer_createRemotely s target remote).bind fun _ => isTransfer_move s source _ false

end Transfers

/-! ### Operations -/

lemma deletePath_requests (s : Surroundings σ) (path : Text) (scene : Scene σ Package) :
    requests (scene.since (deletePath s path scene).2) = [⟨.delete, s.endpoints.delete path, .nothing⟩] := by
  unfold deletePath
  rw [Job.exchange_bind_run]
  simp [Job.ofExcept, requests, Event.request?]

/-- **The requests of an operation** are exactly those that are planned for it, whatever the appliance
answers, the store does and the files hold. -/
theorem perform_requests (s : Surroundings σ) (op : Operation) (scene : Scene σ Package) :
    let after := (op.perform s scene).2
    requests (scene.since after) = planned s scene.held (scene.since after) (s.files scene.world)
      (s.files (fetchStatus s scene).2.world) op := by
  intro after
  cases op with
  | announce destination => exact announce_requests s destination scene
  | updateStatus =>
    have hafter : after = (reconcile s scene).2 := updateStatus_run s scene
    rw [hafter]
    exact reconcile_requests s scene
  | isFileLocal path tell =>
    have hafter : after = (locality s path tell scene).2 := isFileLocal_run s path tell scene
    rw [hafter]
    exact locality_requests s path tell scene
  | checkFixity =>
    have hafter : after = (fixity s scene).2 := checkFixity_run s scene
    rw [hafter]
    exact fixity_requests s scene
  | deletePath path => exact deletePath_requests s path scene
  | browse path => exact (isTransfer_browse s path).quiet scene
  | fetch source target => exact (isTransfer_fetch s source target).quiet scene
  | deposit source target => exact (isTransfer_deposit s source target).quiet scene

/-- An appliance that leaves open whether a bag is at hand, over a space with one file in the bag. -/
def oneFileAppliance : Surroundings Nat :=
  { greenAppliance with
    files := fun _ => ⟨.directory [("space", .directory [("aips", .directory [("bag", .directory [
      ("a b.txt", .file [97])])])])], []⟩ }

theorem perform_requests_oneFile :
    let start : Scene Nat Package := ⟨0, stagedBag, []⟩
    requests (start.since ((Operation.isFileLocal none false).perform oneFileAppliance start).2) =
      [question "http://appliance/api/3/ingest-manifest/status/r1",
        question "http://appliance/api/2/files/fileInfo/aips/bag/a+b.txt"] := by
  intro start
  rw [perform_requests]
  decide +kernel

end Custodian.Agent
