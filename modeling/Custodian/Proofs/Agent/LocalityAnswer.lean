import Custodian.Proofs.Agent.OnDemand

/-!
# Whether a package is at hand, and what the appliance has said about it

The answer to the question whether a package is at hand goes back to one answer of the appliance, the one
that is consulted last (`consulted?`). Without it there is no answer. But where it leaves open whether the
package is at hand, the package is taken not to be.

* `consult_answer`: what is consulted is what the appliance has said.
* `locality_as_told_iff`: the answer and the mail are as the appliance has said exactly if it has not left
  this open.
* `locality_not_as_told`: an answer, and a mail, about a package of which the appliance has said nothing of
  the kind.
-/

namespace Custodian.Agent

open Appliance
open Json (Value)

variable {σ ε α β : Type} {s : Surroundings σ} {scene : Scene σ Package}

/-! ### What the appliance has said -/

/-- What the appliance has told about a file in a package. -/
def fileTold? (s : Surroundings σ) (p : Package) (events : List Event) (path : Text) : Option FileInfo :=
  (told? events (fileUrl s p path)).bind FileInfo.ofJson?

/-- The answer of the appliance that is consulted last: what the state of a compressed package says about its
file; what is told about a file in a bag; for a whole bag its state, or if that leaves open whether the bag is
at hand, what is told about its first file. -/
def consulted? (s : Surroundings σ) (p : Package) (files : FileTree) (events : List Event)
    (path : Option Text) : Option FileInfo :=
  match p.shape, path with
  | .compressed _, _ => ((stateTold? s p events).bind FileRelease.ofJson?).bind FileRelease.fileInformation
  | .uncompressed, some path => fileTold? s p events path
  | .uncompressed, none => ((stateTold? s p events).bind Manifest.ofJson?).bind fun m =>
    match m.isLocal with
    | some _ => some m.fileInfo
    | none => (firstFile files (p.fullPath s.spaceRoot)).toOption.bind (fileTold? s p events)

/-- The mail that was sent, whatever came of it. -/
def Event.mail? : Event → Option Mail
  | .sent mail _ => some mail
  | _ => none

/-- An answer whether a package is at hand, and the mails about it, say what was stated and no more. -/
structure AsTold (stated answer : Option Bool) (mails : List Mail) : Prop where
  atHand : answer = some true → stated = some true
  away : answer = some false → stated = some false
  unknown : stated = none → answer = none
  mailed : mails ≠ [] → stated = some false

/-! ### Questions about files -/

lemma fileUrl_congr {p q : Package} (h : SameBeside p q) (path : Text) :
    fileUrl s q path = fileUrl s p path := by
  rw [fileUrl, fileUrl, h.location, h.currentPath]

lemma fullPath_congr {p q : Package} (h : SameBeside p q) (root : Text) :
    q.fullPath root = p.fullPath root := by
  rw [Package.fullPath, Package.fullPath, h.location, h.currentPath]

lemma fileUrl_ne_statusUrl (p q : Package) (path id : Text) : statusUrl s p id ≠ fileUrl s q path := by
  have hne := fileInfo_ne_status s.endpoints
    (Url.quote (Endpoints.innerPath q.location q.currentPath (Text.trimStart (· == '/') path))) id
  unfold statusUrl
  rcases p.shape with pointerFile | _
  · exact hne.1.symm
  · exact hne.2.symm

lemma told?_ask_of_ne {url other : Text} (h : url ≠ other) (subject : Subject) :
    told? (scene.since (ask s url subject scene).2) other = none := by
  have hsince : scene.since (ask s url subject scene).2 =
      [.exchanged (question url) (s.exchange (question url) scene.world).1] :=
    Scene.since_after _ _ _
  have hne : question url ≠ question other := fun heq => h (congrArg Request.url heq)
  rw [hsince, told?, List.findSome?_singleton]
  rcases (s.exchange (question url) scene.world).1 with _ | _ | status | ⟨status, body⟩ <;>
    simp [Event.answer?, hne]

/-- The question for the state of a package is no question about a file. -/
lemma told?_fetchStatus (p : Package) (path : Text) :
    told? (scene.since (fetchStatus s scene).2) (fileUrl s p path) = none := by
  have hcourse : Course s .none scene (ensureRegistered s scene).2 := ensureRegistered_course
  rw [fetchStatus_eq]
  rcases (ensureRegistered s scene).2.held.identifier? with _ | id
  · exact told?_ensureRegistered s scene _
  · dsimp only
    rw [Scene.since_append_of_grows hcourse.grows (ask_grows _ _ _ _), told?_append,
      told?_ensureRegistered, Option.none_or, told?_ask_of_ne (fileUrl_ne_statusUrl _ _ _ _)]

/-- What the question about a file comes to is what is told about it. -/
lemma askFile_answer (s : Surroundings σ) (path : Text) (scene : Scene σ Package) :
    (askFile s path scene).1.toOption =
      fileTold? s scene.held (scene.since (askFile s path scene).2) path := by
  unfold askFile fileTold?
  rw [Job.held_bind_run, bind_still fun _ _ => rfl, told?_ask, Job.bind_run]
  rcases ask s (fileUrl s scene.held path) .file scene with ⟨e | v, after⟩
  · rfl
  · dsimp only [Except.toOption, Option.bind_some, Job.ofExcept, decode]
    rcases FileInfo.ofJson? v with _ | info <;> rfl

/-! ### The consultation -/

lemma consult_compressed {pointerFile : Text} (shape : scene.held.shape = .compressed pointerFile)
    (path : Option Text) : consult s path scene = (fetchStatus s >>= consultRelease path) scene := by
  unfold consult
  rw [Job.held_bind_run, shape]
  rfl

lemma consult_bag (shape : scene.held.shape = .uncompressed) :
    consult s none scene = (fetchStatus s >>= consultBag s) scene := by
  unfold consult
  rw [Job.held_bind_run, shape]
  rfl

lemma consult_file (shape : scene.held.shape = .uncompressed) (path : Text) :
    consult s (some path) scene = (askFile s path >>= fun info => pure (info, some path)) scene := by
  unfold consult
  rw [Job.held_bind_run, shape]

lemma consultRelease_still (path : Option Text) (state : Value) (scene : Scene σ Package) :
    (consultRelease path state scene).2 = scene := by
  unfold consultRelease
  apply bind_still
  intro status scene
  rcases status.fileInformation with _ | info <;> rfl

/-- What is left to do about a compressed package comes to what its state says about its file. -/
lemma consultRelease_answer (path : Option Text) (state : Value) (scene : Scene σ Package) :
    (consultRelease path state scene).1.toOption.map Prod.fst =
      (FileRelease.ofJson? state).bind FileRelease.fileInformation := by
  unfold consultRelease decode
  rw [Job.ofExcept_bind_run]
  rcases FileRelease.ofJson? state with _ | ⟨_ | info⟩ <;> rfl

/-- What is left to do about a whole bag comes to what its state says, or to what is told about its first
file. -/
lemma consultBag_answer (s : Surroundings σ) (state : Value) (scene : Scene σ Package) :
    (consultBag s state scene).1.toOption.map Prod.fst =
      (Manifest.ofJson? state).bind fun m => match m.isLocal with
        | some _ => some m.fileInfo
        | none => (firstFile (s.files scene.world) (scene.held.fullPath s.spaceRoot)).toOption.bind
            (fileTold? s scene.held (scene.since (consultBag s state scene).2)) := by
  unfold consultBag decode
  rw [Job.ofExcept_bind_run]
  rcases Manifest.ofJson? state with _ | m
  · rfl
  dsimp only [Option.bind_some]
  rcases m.isLocal with _ | found
  · dsimp only
    rw [Job.files_bind_run, Job.held_bind_run, Job.ofExcept_bind_run]
    rcases firstFile (s.files scene.world) (scene.held.fullPath s.spaceRoot) with e | sample
    · rfl
    · dsimp only [Except.toOption, Option.bind_some]
      rw [bind_still fun _ _ => rfl, ← askFile_answer, Job.bind_run]
      rcases askFile s sample scene with ⟨e | info, after⟩ <;> rfl
  · rfl

/-- **What is consulted** is what the appliance has told. -/
theorem consult_answer (s : Surroundings σ) (path : Option Text) (scene : Scene σ Package) :
    (consult s path scene).1.toOption.map Prod.fst =
      consulted? s scene.held (s.files (fetchStatus s scene).2.world)
        (scene.since (consult s path scene).2) path := by
  have hfetch : Course s .none scene (fetchStatus s scene).2 := fetchStatus_course
  have htold := stateTold?_fetchStatus s scene
  unfold consulted?
  rcases shape : scene.held.shape with pointerFile | _
  · dsimp only
    rw [consult_compressed shape, bind_still (consultRelease_still path), htold, Job.bind_run]
    rcases fetchStatus s scene with ⟨e | state, mid⟩
    · rfl
    · exact consultRelease_answer path state mid
  rcases path with _ | path
  · dsimp only
    rw [consult_bag shape]
    rcases hr : (fetchStatus s scene).1 with e | state
    · rw [Job.bind_run_error hr, htold, hr]
      rfl
    · have hbag := consultBag_requests s state (fetchStatus s scene).2
        (hfetch.sameBeside.shape.trans shape)
      rw [hr] at htold
      rw [Job.bind_run_ok hr, Scene.since_append_of_grows hfetch.grows hbag.1,
        stateTold?_append _ htold, consultBag_answer, fullPath_congr hfetch.sameBeside]
      have hfile : fileTold? s (fetchStatus s scene).2.held
            ((fetchStatus s scene).2.since (consultBag s state (fetchStatus s scene).2).2) =
          fileTold? s scene.held (scene.since (fetchStatus s scene).2 ++
            (fetchStatus s scene).2.since (consultBag s state (fetchStatus s scene).2).2) := by
        funext path
        rw [fileTold?, fileTold?, told?_append, told?_fetchStatus, Option.none_or,
          fileUrl_congr hfetch.sameBeside]
      rw [hfile]
      rfl
  · dsimp only
    rw [consult_file shape, bind_still fun _ _ => rfl, ← askFile_answer, Job.bind_run]
    rcases askFile s path scene with ⟨e | info, after⟩ <;> rfl

/-! ### Mails -/

/-- The mails among some events. -/
def mails (events : List Event) : List Mail :=
  events.filterMap Event.mail?

@[simp]
lemma mails_nil : mails [] = [] := rfl

@[simp]
lemma mails_append (events later : List Event) : mails (events ++ later) = mails events ++ mails later :=
  List.filterMap_append

lemma ask_mails (url : Text) (subject : Subject) :
    mails (scene.since (ask s url subject scene).2) = [] := by
  have hsince : scene.since (ask s url subject scene).2 =
      [.exchanged (question url) (s.exchange (question url) scene.world).1] :=
    Scene.since_after _ _ _
  rw [hsince]
  rfl

lemma register_mails (destination : Text) :
    mails (scene.since (register s destination scene).2) = [] := by
  rcases register_cases s destination scene with h | ⟨request, -, ⟨-, h⟩ | ⟨id, -, h⟩⟩ <;> rw [h]
  · simp
  · rw [Scene.since_after]
    rfl
  · rw [Scene.since_after_keep]
    rfl

lemma ensureRegistered_mails : mails (scene.since (ensureRegistered s scene).2) = [] := by
  unfold ensureRegistered
  rw [Job.held_bind_run]
  rcases scene.held.identifier? with _ | id
  · exact register_mails _
  · simp

lemma fetchStatus_mails : mails (scene.since (fetchStatus s scene).2) = [] := by
  have hcourse : Course s .none scene (ensureRegistered s scene).2 := ensureRegistered_course
  rw [fetchStatus_eq]
  rcases (ensureRegistered s scene).2.held.identifier? with _ | id
  · exact ensureRegistered_mails
  · dsimp only
    rw [Scene.since_append_of_grows hcourse.grows (ask_grows _ _ _ _), mails_append, ask_mails,
      ensureRegistered_mails, List.append_nil]

lemma askFile_mails (path : Text) : mails (scene.since (askFile s path scene).2) = [] := by
  unfold askFile
  rw [Job.held_bind_run, bind_still fun _ _ => rfl, ask_mails]

lemma consultBag_mails (state : Value) : mails (scene.since (consultBag s state scene).2) = [] := by
  unfold consultBag
  rw [Job.ofExcept_bind_run]
  rcases decode Manifest.ofJson? .package state with e | m
  · simp
  dsimp only
  rcases m.isLocal with _ | found
  · dsimp only
    rw [Job.files_bind_run, Job.held_bind_run, Job.ofExcept_bind_run]
    rcases firstFile (s.files scene.world) (scene.held.fullPath s.spaceRoot) with e | sample
    · simp
    · dsimp only
      rw [bind_still fun _ _ => rfl, askFile_mails]
  · simp

/-- A consultation sends no mail. -/
lemma consult_mails (s : Surroundings σ) (path : Option Text) (scene : Scene σ Package) :
    mails (scene.since (consult s path scene).2) = [] := by
  have hfetch : Course s .none scene (fetchStatus s scene).2 := fetchStatus_course
  rcases shape : scene.held.shape with pointerFile | _
  · rw [consult_compressed shape, bind_still (consultRelease_still path), fetchStatus_mails]
  rcases path with _ | path
  · rw [consult_bag shape]
    rcases hr : (fetchStatus s scene).1 with e | state
    · rw [Job.bind_run_error hr, fetchStatus_mails]
    · have hbag := consultBag_requests s state (fetchStatus s scene).2
        (hfetch.sameBeside.shape.trans shape)
      rw [Job.bind_run_ok hr, Scene.since_append_of_grows hfetch.grows hbag.1, mails_append,
        fetchStatus_mails, consultBag_mails, List.append_nil]
  · rw [consult_file shape, bind_still fun _ _ => rfl, askFile_mails]

/-! ### The answer -/

lemma notify_run (s : Surroundings σ) (path id : Option Text) (scene : Scene σ Package) :
    notify s path id scene = (.ok (), if s.superusers = [] then scene else
      scene.after (s.send (Notice.mail s.superusers scene.held path id))
        (.sent (Notice.mail s.superusers scene.held path id))) := by
  unfold notify
  rw [Job.held_bind_run]
  rcases s.superusers with _ | ⟨first, rest⟩
  · rfl
  · rfl

/-- A mail that was sent does not change what was consulted. -/
lemma consulted?_append_sent (p : Package) (files : FileTree) (events : List Event) (path : Option Text)
    (mail : Mail) (outcome : Except Text Unit) :
    consulted? s p files (events ++ [.sent mail outcome]) path = consulted? s p files events path := by
  have quiet : requests [Event.sent mail outcome] = [] := rfl
  have hfile : fileTold? s p (events ++ [.sent mail outcome]) = fileTold? s p events := by
    funext path
    rw [fileTold?, fileTold?, told?_append_quiet quiet]
  unfold consulted?
  rw [stateTold?_append_quiet quiet, hfile]

/-- What an answer says, and whether a mail is sent, given the answer of the appliance that was consulted. -/
structure GoesBackTo (s : Surroundings σ) (tell : Bool) (consulted : Option FileInfo)
    (answer : Option Bool) (sent : List Mail) : Prop where
  answer : answer = consulted.map fun info => decide (info.isLocal = some true)
  mailed : sent ≠ [] ↔ tell = true ∧ s.superusers ≠ [] ∧
    ∃ info, consulted = some info ∧ info.isLocal ≠ some true

lemma Course.since_sent {scope : Scope} {a b : Scene σ Package} (h : Course s scope a b) (mail : Mail) :
    a.since (b.after (s.send mail) (.sent mail)) = a.since b ++ [.sent mail (s.send mail b.world).1] := by
  rw [Course.since_tail h (.told mail), Scene.since_after]

lemma isFileLocal_of_error {path : Option Text} {tell : Bool} {e : Error}
    (h : (consult s path scene).1 = .error e) :
    isFileLocal s path tell scene = (none, (consult s path scene).2) := by
  rw [isFileLocal, locality, Job.bind_run_error h]

/-- A package that is consulted about, as it goes on from there. -/
lemma isFileLocal_of_ok {path about : Option Text} {tell : Bool} {info : FileInfo}
    (h : (consult s path scene).1 = .ok (info, about)) :
    isFileLocal s path tell scene = (some (decide (info.isLocal = some true)),
      if info.isLocal ≠ some true ∧ tell = true then
        (notify s about (info.id.bind idText?) (consult s path scene).2).2
      else (consult s path scene).2) := by
  rw [isFileLocal, locality, Job.bind_run_ok h]
  dsimp only
  by_cases atHand : info.isLocal = some true
  · simp [atHand]
  · cases tell with
    | false => simp [atHand]
    | true => simp [atHand, notify_run, Job.bind_run]

/-- **What an answer goes back to** is the answer of the appliance that was consulted. -/
theorem isFileLocal_goesBackTo (s : Surroundings σ) (path : Option Text) (tell : Bool)
    (scene : Scene σ Package) :
    let run := isFileLocal s path tell scene
    let events := scene.since run.2
    GoesBackTo s tell
      (consulted? s scene.held (s.files (fetchStatus s scene).2.world) events path) run.1 (mails events) := by
  have hconsult : Course s .none scene (consult s path scene).2 := consult_course path
  have hmails : mails (scene.since (consult s path scene).2) = [] := consult_mails s path scene
  have hconsulted := consult_answer s path scene
  rcases hr : (consult s path scene).1 with e | ⟨info, about⟩ <;> rw [hr] at hconsulted
  · rw [isFileLocal_of_error hr]
    dsimp only
    rw [← hconsulted, hmails]
    exact ⟨rfl, by simp [Except.toOption]⟩
  rw [isFileLocal_of_ok hr, notify_run]
  dsimp only
  split_ifs with told quiet
  · rw [← hconsulted, hmails]
    exact ⟨rfl, by simp [quiet]⟩
  · generalize Notice.mail s.superusers (consult s path scene).2.held about (info.id.bind idText?) = mail
    rw [hconsult.since_sent mail, consulted?_append_sent, ← hconsulted, mails_append, hmails]
    exact ⟨rfl, by simp [mails, Event.mail?, told, quiet, Except.toOption]⟩
  · rw [← hconsulted, hmails]
    refine ⟨rfl, ?_⟩
    simp [Except.toOption]
    tauto

/-- What goes back to the answer that was consulted is as told exactly if that answer tells it. -/
lemma GoesBackTo.asTold_iff {tell : Bool} {consulted : Option FileInfo} {answer : Option Bool}
    {sent : List Mail} (h : GoesBackTo s tell consulted answer sent) :
    AsTold (consulted.bind FileInfo.isLocal) answer sent ↔
      ∀ info, consulted = some info → info.isLocal ≠ none := by
  obtain ⟨rfl, mailed⟩ := h
  rcases consulted with _ | info
  · have hsent : sent = [] := by simpa using mailed
    refine iff_of_true ?_ nofun
    constructor <;> simp [hsent]
  rcases hlocal : info.isLocal with _ | found
  · refine iff_of_false ?_ fun h => h info rfl hlocal
    intro told
    have haway := told.away (by simp [hlocal])
    simp [hlocal] at haway
  · refine iff_of_true ?_ ?_
    · constructor <;> cases found <;> simp_all
    · rintro other ⟨⟩
      simp [hlocal]

/-- **An answer is as the appliance has told**, and so is the mail, exactly if the answer of the appliance that
was consulted, if there was one, tells whether the package is at hand. Whatever it tells, the answer is that
the package is at hand exactly if the appliance has told so, and there is none exactly if nothing was
consulted. A mail is sent if one is wanted, there is a superuser, and what was consulted does not tell that the
package is at hand. -/
theorem locality_as_told_iff (s : Surroundings σ) (path : Option Text) (tell : Bool)
    (scene : Scene σ Package) :
    let run := isFileLocal s path tell scene
    let events := scene.since run.2
    let consulted := consulted? s scene.held (s.files (fetchStatus s scene).2.world) events path
    (run.1 = some true ↔ ∃ info, consulted = some info ∧ info.isLocal = some true) ∧
    (run.1 = none ↔ consulted = none) ∧
    (mails events ≠ [] ↔ tell = true ∧ s.superusers ≠ [] ∧
      ∃ info, consulted = some info ∧ info.isLocal ≠ some true) ∧
    (AsTold (consulted.bind FileInfo.isLocal) run.1 (mails events) ↔
      ∀ info, consulted = some info → info.isLocal ≠ none) := by
  intro run events consulted
  have back : GoesBackTo s tell consulted run.1 (mails events) := isFileLocal_goesBackTo s path tell scene
  refine ⟨?_, ?_, back.mailed, back.asTold_iff⟩
  · rw [back.answer]
    simp
  · rw [back.answer, Option.map_eq_none_iff]

/-- An appliance that knows the file of a release, but does not say whether it is at hand. -/
def vagueAppliance : Surroundings Nat :=
  { greenAppliance with
    exchange := fun _ failures =>
      (.answered 200 (Utf8.encode (Value.object [(FileRelease.fileInformationName,
        .object [("id", .string "c-3")])]).compact), failures)
    superusers := ["admin@example.com"] }

/-- A compressed package that is registered. -/
def releasedPackage : Package :=
  { stagedBag with shape := .compressed "/pointers/0d4e.xml" }

/-- **An answer need not be as told.** The state of a compressed package says nothing about whether its file
is at hand. The answer is that it is not, and the superusers are told so. -/
theorem locality_not_as_told :
    let start : Scene Nat Package := ⟨0, releasedPackage, []⟩
    let run := isFileLocal vagueAppliance none true start
    let events := start.since run.2
    let consulted := consulted? vagueAppliance releasedPackage
      (vagueAppliance.files (fetchStatus vagueAppliance start).2.world) events none
    consulted.map FileInfo.isLocal = some none ∧ run.1 = some false ∧ (mails events).length = 1 ∧
      ¬AsTold (consulted.bind FileInfo.isLocal) run.1 (mails events) := by
  intro start run events consulted
  have hconsulted : consulted.map FileInfo.isLocal = some none := by decide +kernel
  refine ⟨hconsulted, by decide +kernel, by decide +kernel, ?_⟩
  intro told
  obtain ⟨info, hinfo, hlocal⟩ := Option.map_eq_some_iff.1 hconsulted
  exact (isFileLocal_goesBackTo vagueAppliance none true start).asTold_iff.1 told info hinfo hlocal

end Custodian.Agent
