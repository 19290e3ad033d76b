import Custodian.Proofs.Agent.FailedQuestion
import Custodian.Proofs.Notice

/-!
# Telling that a package is not at hand

A question whether a package is at hand is a consultation, after which the superusers may be told. The answer
and everything that is asked for and saved come from the consultation; the notice comes last and nothing hangs
on it (`isFileLocal_notice`).

* `consult_about`: what a consultation is about.
* `consulted?_eq_some_iff`: the answer that is consulted is read as the appliance has written it.
* `notice_is_side_effect`: neither the wish for a notice nor the mailer makes a difference to the answer; and
  the notice that is sent, when it is sent and what it says.
-/

namespace Custodian.Agent

open Appliance
open Json (Value)

variable {σ : Type} {s : Surroundings σ} {scene : Scene σ Package}

/-! ### Notices -/

/-- The surroundings with another mailer. -/
def Surroundings.withMailer (s : Surroundings σ) (superusers : List Text)
    (send : Mail → σ → Except Text Unit × σ) : Surroundings σ :=
  { s with superusers, send }

/-- The file that is told about: the one that is asked for, or else the first one of a bag whose state leaves
open whether the bag is at hand. Without one, the package is told about. -/
def fileToldAbout? (s : Surroundings σ) (p : Package) (files : FileTree) (events : List Event) :
    Option Text → Option Text
  | some path => some path
  | none => match p.shape with
    | .compressed _ => none
    | .uncompressed => ((stateTold? s p events).bind Manifest.ofJson?).bind fun m => match m.isLocal with
      | some _ => none
      | none => (firstFile files (p.fullPath s.spaceRoot)).toOption

/-- The notice that is due after a consultation. -/
def dueNotice? (s : Surroundings σ) (tell : Bool) (p : Package) :
    Except Error (FileInfo × Option Text) → Option Mail
  | .error _ => none
  | .ok (info, about) =>
    if tell = true ∧ info.isLocal ≠ some true ∧ s.superusers ≠ [] then
      some (Notice.mail s.superusers p about (info.id.bind idText?))
    else none

/-- The scene after a notice that was due. -/
def Scene.afterNotice (s : Surroundings σ) (scene : Scene σ Package) : Option Mail → Scene σ Package
  | none => scene
  | some mail => scene.after (s.send mail) (.sent mail)

lemma notice_congr {p q : Package} (h : SameBeside p q) (recipients : List Text) (path id : Option Text) :
    Notice.mail recipients q path id = Notice.mail recipients p path id := by
  have hdisplay : q.display = p.display := by
    rw [Package.display, Package.display, h.uuid, h.currentPath]
  have hitem : Notice.item q path = Notice.item p path := by
    unfold Notice.item
    rw [hdisplay]
  rw [Notice.mail, Notice.mail, Notice.message, Notice.message, hitem]

/-- A consultation does not involve the mailer. -/
lemma consult_withMailer (superusers : List Text) (send : Mail → σ → Except Text Unit × σ)
    (path : Option Text) (scene : Scene σ Package) :
    consult (s.withMailer superusers send) path scene = consult s path scene := rfl

/-! ### What is told about -/

lemma consultRelease_about {path about : Option Text} {state : Value} {info : FileInfo}
    (h : (consultRelease path state scene).1 = .ok (info, about)) : about = path := by
  unfold consultRelease at h
  rw [Job.ofExcept_bind_run] at h
  rcases hd : decode FileRelease.ofJson? .package state with e | ⟨_ | found⟩ <;> rw [hd] at h <;> cases h
  rfl

lemma consultBag_about {about : Option Text} {state : Value} {info : FileInfo}
    (h : (consultBag s state scene).1 = .ok (info, about)) :
    about = (Manifest.ofJson? state).bind fun m => match m.isLocal with
      | some _ => none
      | none => (firstFile (s.files scene.world) (scene.held.fullPath s.spaceRoot)).toOption := by
  unfold consultBag decode at h
  rw [Job.ofExcept_bind_run] at h
  rcases hm : Manifest.ofJson? state with _ | m <;> rw [hm] at h
  · cases h
  rw [Option.bind_some]
  rcases hlocal : m.isLocal with _ | found <;> simp only [hlocal] at h ⊢
  · rw [Job.files_bind_run, Job.held_bind_run, Job.ofExcept_bind_run] at h
    rcases hf : firstFile (s.files scene.world) (scene.held.fullPath s.spaceRoot) with e | sample <;>
      rw [hf] at h
    · cases h
    · dsimp only at h
      rcases ha : (askFile s sample scene).1 with e | answer
      · rw [Job.bind_run_error ha] at h
        cases h
      · rw [Job.bind_run_ok ha] at h
        cases h
        rfl
  · cases h
    rfl

/-- **What a consultation is about**: the file that is asked for, or the one that stands for a whole bag. -/
theorem consult_about {path about : Option Text} {info : FileInfo}
    (h : (consult s path scene).1 = .ok (info, about)) :
    about = fileToldAbout? s scene.held (s.files (fetchStatus s scene).2.world)
      (scene.since (consult s path scene).2) path := by
  have hfetch : Course s .none scene (fetchStatus s scene).2 := fetchStatus_course
  have htold := stateTold?_fetchStatus s scene
  rcases shape : scene.held.shape with pointerFile | _
  · -- a compressed package: what was asked for is told about
    rw [consult_compressed shape, Job.bind_run] at h
    have habout : about = path := by
      rcases hf : fetchStatus s scene with ⟨e | state, mid⟩ <;> rw [hf] at h
      · cases h
      · exact consultRelease_about h
    rw [habout]
    rcases path with _ | path
    · rw [fileToldAbout?, shape]
    · rfl
  rcases path with _ | path
  · rw [consult_bag shape] at h ⊢
    rcases hf : (fetchStatus s scene).1 with e | state
    · rw [Job.bind_run_error hf] at h
      cases h
    · have hbag := consultBag_requests s state (fetchStatus s scene).2 (hfetch.sameBeside.shape.trans shape)
      rw [hf] at htold
      rw [Job.bind_run_ok hf] at h ⊢
      rw [consultBag_about h, fileToldAbout?, shape,
        Scene.since_append_of_grows hfetch.grows hbag.1, stateTold?_append _ htold,
        fullPath_congr hfetch.sameBeside]
      rfl
  · rw [consult_file shape] at h
    rcases hr : (askFile s path scene).1 with e | answer
    · rw [Job.bind_run_error hr] at h
      cases h
    · rw [Job.bind_run_ok hr] at h
      cases h
      rfl

/-! ### What is consulted -/

/-- The answer of the appliance that is consulted last, as it is written, and the file that it is about, if it
is about one. -/
inductive Consulted (s : Surroundings σ) (p : Package) (files : FileTree) (events : List Event) :
    Option Text → FileInfo → Option Text → Prop
  /-- What the state of a compressed package says about its file. -/
  | release {pointerFile : Text} {path : Option Text} {state : Value} {release : FileRelease} {info : FileInfo}
      (shape : p.shape = .compressed pointerFile) (told : stateTold? s p events = some state)
      (written : release.WrittenAs state) (known : release.fileInformation = some info) :
      Consulted s p files events path info path
  /-- What is told about a file in a bag. -/
  | file {path : Text} {answer : Value} {info : FileInfo} (shape : p.shape = .uncompressed)
      (told : told? events (fileUrl s p path) = some answer) (written : info.WrittenAs answer) :
      Consulted s p files events (some path) info (some path)
  /-- The state of a bag, if it tells whether the bag is at hand. -/
  | bag {state : Value} {m : Manifest} (shape : p.shape = .uncompressed)
      (told : stateTold? s p events = some state) (written : m.WrittenAs state) (said : m.isLocal ≠ none) :
      Consulted s p files events none ⟨m.id, m.replication, m.isLocal⟩ none
  /-- What is told about the first file of a bag whose state leaves it open. -/
  | sample {state answer : Value} {m : Manifest} {sample : Text} {info : FileInfo}
      (shape : p.shape = .uncompressed) (told : stateTold? s p events = some state)
      (written : m.WrittenAs state) (unsaid : m.isLocal = none)
      (first : firstFile files (p.fullPath s.spaceRoot) = .ok sample)
      (toldFile : told? events (fileUrl s p sample) = some answer) (writtenFile : info.WrittenAs answer) :
      Consulted s p files events none info (some sample)

section Consulted

variable {p : Package} {files : FileTree} {events : List Event} {path about : Option Text} {info : FileInfo}

lemma fileTold?_eq_some_iff {path : Text} : fileTold? s p events path = some info ↔
    ∃ answer, told? events (fileUrl s p path) = some answer ∧ info.WrittenAs answer := by
  unfold fileTold?
  simp only [Option.bind_eq_some_iff, FileInfo.ofJson?_eq_some_iff]

lemma manifestTold_iff {m : Manifest} : (stateTold? s p events).bind Manifest.ofJson? = some m ↔
    ∃ state, stateTold? s p events = some state ∧ m.WrittenAs state := by
  simp only [Option.bind_eq_some_iff, Manifest.ofJson?_eq_some_iff]

lemma fileToldAbout?_compressed {pointerFile : Text} (shape : p.shape = .compressed pointerFile) :
    fileToldAbout? s p files events path = path := by
  cases path with
  | none => rw [fileToldAbout?, shape]
  | some path => rfl

/-- Whatever is consulted is found as it is written. -/
lemma Consulted.found (h : Consulted s p files events path info about) :
    consulted? s p files events path = some info ∧ about = fileToldAbout? s p files events path := by
  unfold consulted?
  cases h with
  | release shape told written known =>
    rw [fileToldAbout?_compressed shape, shape, told, Option.bind_some,
      FileRelease.ofJson?_eq_some_iff.2 written]
    exact ⟨known, rfl⟩
  | file shape told written =>
    rw [shape]
    exact ⟨fileTold?_eq_some_iff.2 ⟨_, told, written⟩, rfl⟩
  | @bag state m shape told written said =>
    have read := manifestTold_iff.2 ⟨state, told, written⟩
    obtain ⟨found, hfound⟩ := Option.ne_none_iff_exists'.1 said
    simp [fileToldAbout?, shape, read, hfound, Manifest.fileInfo]
  | @sample state answer m sample info shape told written unsaid first toldFile writtenFile =>
    have read := manifestTold_iff.2 ⟨state, told, written⟩
    have hfile := fileTold?_eq_some_iff.2 ⟨answer, toldFile, writtenFile⟩
    simp [fileToldAbout?, shape, read, unsaid, first, hfile, Except.toOption]

/-- What is found was consulted. -/
lemma consulted_of_found (h : consulted? s p files events path = some info) :
    Consulted s p files events path info (fileToldAbout? s p files events path) := by
  unfold consulted? at h
  rcases shape : p.shape with pointerFile | _ <;> rw [shape] at h
  · obtain ⟨release, hrelease, known⟩ := Option.bind_eq_some_iff.1 h
    obtain ⟨state, told, read⟩ := Option.bind_eq_some_iff.1 hrelease
    rw [fileToldAbout?_compressed shape]
    exact .release shape told (FileRelease.ofJson?_eq_some_iff.1 read) known
  cases path with
  | some path =>
    obtain ⟨answer, told, written⟩ := fileTold?_eq_some_iff.1 h
    exact .file shape told written
  | none =>
    obtain ⟨m, read, hinfo⟩ := Option.bind_eq_some_iff.1 h
    obtain ⟨state, told, written⟩ := manifestTold_iff.1 read
    rw [fileToldAbout?, shape, read, Option.bind_some]
    rcases hlocal : m.isLocal with _ | found <;> rw [hlocal] at hinfo
    · rcases first : firstFile files (p.fullPath s.spaceRoot) with e | sample <;> rw [first] at hinfo
      · cases hinfo
      · obtain ⟨answer, toldFile, writtenFile⟩ := fileTold?_eq_some_iff.1 hinfo
        exact .sample shape told written hlocal first toldFile writtenFile
    · cases hinfo
      exact .bag shape told written (hlocal ▸ Option.some_ne_none found)

/-- **The answer that is consulted** is read as it is written. -/
theorem consulted?_eq_some_iff : consulted? s p files events path = some info ↔
    ∃ about, Consulted s p files events path info about := by
  constructor
  · intro h
    exact ⟨_, consulted_of_found h⟩
  · rintro ⟨about, h⟩
    exact h.found.1

/-- One answer is consulted, about one thing. -/
theorem Consulted.unique {info' : FileInfo} {about' : Option Text} (h : Consulted s p files events path info about)
    (h' : Consulted s p files events path info' about') : info = info' ∧ about = about' :=
  ⟨Option.some.inj (h.found.1.symm.trans h'.found.1), h.found.2.trans h'.found.2.symm⟩

end Consulted

/-! ### After the consultation -/

/-- **A question whether a package is at hand** is a consultation, and then the notice that is due. -/
theorem isFileLocal_notice (s : Surroundings σ) (path : Option Text) (tell : Bool)
    (scene : Scene σ Package) :
    isFileLocal s path tell scene =
      ((consult s path scene).1.toOption.map fun found => decide (found.1.isLocal = some true),
        (consult s path scene).2.afterNotice s
          (dueNotice? s tell scene.held (consult s path scene).1)) := by
  have hconsult : Course s .none scene (consult s path scene).2 := consult_course path
  rcases hr : (consult s path scene).1 with e | ⟨info, about⟩
  · exact isFileLocal_of_error hr
  rw [isFileLocal_of_ok hr, notify_run, notice_congr hconsult.sameBeside, dueNotice?]
  by_cases wanted : info.isLocal ≠ some true ∧ tell = true
  · by_cases quiet : s.superusers = [] <;>
      simp [wanted, quiet, Scene.afterNotice, Except.toOption]
  · have hdue : ¬(tell = true ∧ info.isLocal ≠ some true ∧ s.superusers ≠ []) :=
      fun h => wanted ⟨h.2.1, h.1⟩
    rw [if_neg wanted, if_neg hdue]
    rfl

/-- Nothing but a notice comes after some events: what was asked for, saved, consulted and told about stays. -/
structure OnlyNotified (s : Surroundings σ) (events later : List Event) (notice : Option Mail) : Prop where
  exchanges : exchanges later = exchanges events
  attempts : later.filterMap Event.attempt? = events.filterMap Event.attempt?
  mails : mails later = mails events ++ notice.toList
  consulted : ∀ p files path, consulted? s p files later path = consulted? s p files events path
  about : ∀ p files path, fileToldAbout? s p files later path = fileToldAbout? s p files events path

lemma fileToldAbout?_append_sent (p : Package) (files : FileTree) (events : List Event)
    (path : Option Text) (mail : Mail) (outcome : Except Text Unit) :
    fileToldAbout? s p files (events ++ [.sent mail outcome]) path = fileToldAbout? s p files events path := by
  have quiet : requests [Event.sent mail outcome] = [] := rfl
  rcases path with _ | path
  · rw [fileToldAbout?, fileToldAbout?, stateTold?_append_quiet quiet]
  · rfl

lemma onlyNotified {scope : Scope} {mid : Scene σ Package} (h : Course s scope scene mid)
    (notice : Option Mail) :
    OnlyNotified s (scene.since mid) (scene.since (mid.afterNotice s notice)) notice := by
  cases notice with
  | none => exact ⟨rfl, rfl, (List.append_nil _).symm, fun _ _ _ => rfl, fun _ _ _ => rfl⟩
  | some mail =>
    have hsince := h.since_sent mail
    rw [Scene.afterNotice, hsince]
    refine ⟨?_, ?_, mails_append _ _, ?_, ?_⟩
    · rw [exchanges_append]
      exact List.append_nil _
    · rw [List.filterMap_append]
      exact List.append_nil _
    · exact fun p files path => consulted?_append_sent p files _ path mail _
    · exact fun p files path => fileToldAbout?_append_sent p files _ path mail _

/-- What a question whether a package is at hand leaves beside the notice is what the consultation leaves. -/
lemma isFileLocal_onlyNotified (s : Surroundings σ) (path : Option Text) (tell : Bool)
    (scene : Scene σ Package) :
    OnlyNotified s (scene.since (consult s path scene).2)
      (scene.since (isFileLocal s path tell scene).2)
      (dueNotice? s tell scene.held (consult s path scene).1) := by
  have hconsult : Course s .none scene (consult s path scene).2 := consult_course path
  rw [isFileLocal_notice]
  exact onlyNotified hconsult _

lemma isFileLocal_held (s : Surroundings σ) (path : Option Text) (tell : Bool) (scene : Scene σ Package) :
    (isFileLocal s path tell scene).2.held = (consult s path scene).2.held := by
  rw [isFileLocal_notice]
  rcases dueNotice? s tell scene.held (consult s path scene).1 with _ | mail <;> rfl

lemma isFileLocal_answer (s : Surroundings σ) (path : Option Text) (tell : Bool) (scene : Scene σ Package) :
    (isFileLocal s path tell scene).1 =
      (consult s path scene).1.toOption.map fun found => decide (found.1.isLocal = some true) := by
  rw [isFileLocal_notice]

/-- **A notice is a side effect.** Ask twice whether a package, or a file in it, is at hand, in the same
surroundings but for the mailer: be a notice wanted in one case and not in the other, let the superusers be
others, and let the mail get lost. The answer is the same, and so are the exchanges with the appliance, the
attempts to save and the package in the end.

A mail is sent exactly if a notice is wanted, the answer is that the package is not at hand, and there is a
superuser. It is then one mail, to the superusers. It names the file that was asked for, or the file that stood
for the whole bag, or else the package, and the identifier that the consulted answer of the appliance gives, if
it gives one. -/
theorem notice_is_side_effect (s : Surroundings σ) (superusers : List Text)
    (send : Mail → σ → Except Text Unit × σ) (path : Option Text) (tell tell' : Bool)
    (scene : Scene σ Package) :
    let run := isFileLocal s path tell scene
    let other := isFileLocal (s.withMailer superusers send) path tell' scene
    let events := scene.since run.2
    let files := s.files (fetchStatus s scene).2.world
    (other.1 = run.1 ∧ other.2.held = run.2.held ∧
      exchanges (scene.since other.2) = exchanges events ∧
      (scene.since other.2).filterMap Event.attempt? = events.filterMap Event.attempt?) ∧
    (tell = true ∧ run.1 = some false ∧ s.superusers ≠ [] →
      ∃ info about id mail, Consulted s scene.held files events path info about ∧ Notice.Shows info.id id ∧
        mails events = [mail] ∧ Notice.Tells s.superusers scene.held about id mail) ∧
    (¬(tell = true ∧ run.1 = some false ∧ s.superusers ≠ []) → mails events = []) := by
  intro run other events files
  have notified : OnlyNotified s (scene.since (consult s path scene).2) events _ :=
    isFileLocal_onlyNotified s path tell scene
  have notified' : OnlyNotified _ _ (scene.since other.2) _ :=
    isFileLocal_onlyNotified (s.withMailer superusers send) path tell' scene
  rw [consult_withMailer] at notified'
  have hanswer : run.1 = _ := isFileLocal_answer s path tell scene
  have hmails := notified.mails
  rw [consult_mails, List.nil_append] at hmails
  refine ⟨⟨?_, ?_, ?_, ?_⟩, ?_⟩
  · rw [hanswer, isFileLocal_answer, consult_withMailer]
  · rw [isFileLocal_held, isFileLocal_held, consult_withMailer]
  · rw [notified.exchanges, notified'.exchanges]
  · rw [notified.attempts, notified'.attempts]
  -- whether a notice is due, and what it says, is settled by what was consulted
  have hconsulted := consult_answer s path scene
  rw [← notified.consulted] at hconsulted
  rcases hr : (consult s path scene).1 with e | ⟨info, about⟩ <;> rw [hr] at hanswer hmails hconsulted
  · refine ⟨?_, fun _ => hmails⟩
    rintro ⟨-, away, -⟩
    rw [hanswer] at away
    cases away
  have habout : about = fileToldAbout? s scene.held files events path := by
    rw [consult_about hr, notified.about]
  have haway : run.1 = some false ↔ info.isLocal ≠ some true := by
    rw [hanswer]
    simp [Except.toOption]
  rw [hmails, haway, dueNotice?]
  refine ⟨?_, ?_⟩
  · intro wanted
    have consulted : Consulted s scene.held files events path info about :=
      habout ▸ consulted_of_found hconsulted.symm
    rw [if_pos wanted]
    exact ⟨info, about, _, _, consulted, Notice.shows_idText? info.id, rfl, Notice.mail_tells ..⟩
  · intro unwanted
    rw [if_neg unwanted]
    rfl

/-- What is said about a file that is not at hand. -/
def awayAnswer : Value :=
  .object [("id", .ofNat 17), ("local", .bool false)]

/-- An appliance that has no file at hand, and a mailer that loses every mail. -/
def awayAppliance : Surroundings Nat :=
  { statingAppliance awayAnswer with
    superusers := ["curator@archive", "admin@archive"]
    send := fun _ failures => (.error "no connection", failures) }

theorem notice_is_side_effect_away :
    let start : Scene Nat Package := ⟨0, stagedBag, []⟩
    let run := isFileLocal awayAppliance (some "/data/a b.txt") true start
    let other := isFileLocal (awayAppliance.withMailer [] greenAppliance.send) (some "/data/a b.txt") false start
    run.1 = some false ∧ other.1 = some false ∧
      mails (start.since run.2) = [{
        subject := "Arkivum file not locally available"
        message := "File /data/a b.txt in package 0d4e: bag with Arkivum ID of 17" ++
          " has been requested but is not available in the Arkivum cache."
        recipients := ["curator@archive", "admin@archive"] }] := by
  intro start run other
  obtain ⟨⟨hother, -⟩, hmailed, -⟩ := notice_is_side_effect awayAppliance [] greenAppliance.send
    (some "/data/a b.txt") true false start
  have away : run.1 = some false := by decide +kernel
  obtain ⟨info, about, id, mail, consulted, shown, hmails, tells⟩ := hmailed ⟨rfl, away, by decide⟩
  refine ⟨away, hother.trans away, ?_⟩
  have told : told? (start.since run.2) (fileUrl awayAppliance stagedBag "/data/a b.txt") = some awayAnswer := by
    decide +kernel
  have written : (⟨some (.ofNat 17), none, some false⟩ : FileInfo).WrittenAs awayAnswer :=
    FileInfo.ofJson?_eq_some_iff.1 (by decide +kernel)
  obtain ⟨rfl, rfl⟩ := consulted.unique (.file rfl told written)
  obtain ⟨subject, message, recipients⟩ := mail
  cases shown with
  | other notNull notText =>
    obtain rfl := tells.subject
    obtain rfl := tells.recipients
    obtain rfl := tells.message
    rw [hmails]
    decide +kernel

end Custodian.Agent
