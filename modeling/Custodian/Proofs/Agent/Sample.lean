import Custodian.Proofs.Agent.Notified
import Custodian.Proofs.FileTree.TopDown

/-!
# The file that stands for a bag

If the state of a bag leaves open whether the bag is at hand, the first file of the bag is asked about, and
what is told about it is taken for the whole bag.

* `firstFile_of_ordered`: which file that is.
* `bag_judged_by_sample`: the question about the bag comes to what the question about this file comes to.
-/

namespace Custodian.Agent

open Appliance
open Json (Value)

variable {σ : Type} {s : Surroundings σ} {scene : Scene σ Package}

/-! ### The first file -/

section FirstFile

variable {files : FileTree} {path : Text} {root : Node}

lemma firstFile_eq (directory : files.directory path = .ok root) : firstFile files path =
    match root.firstFile? with
    | some place => .ok (Path.joinParts place)
    | none => .error (.noFiles path) := by
  unfold firstFile
  rw [directory]
  rfl

/-- **The first file of a directory.** There is none exactly if there is no file below the directory at any
depth. Otherwise it is the one file that has the smallest name in its directory, such that no directory around
this one has a file in it, and no directory with a smaller name than one on the way has a file below it; it is
told by its path from the directory on. It is also the first file of a walk from the top, on which the files
of a directory come before its subdirectories. -/
theorem firstFile_of_ordered (ordered : files.root.IsOrdered) (directory : files.directory path = .ok root) :
    (firstFile files path = .error (.noFiles path) ↔
      ∀ place content, root.get? place ≠ some (.file content)) ∧
    (∀ sample, firstFile files path = .ok sample ↔
      ∃ place, root.IsFirstFile place ∧ sample = Path.joinParts place) ∧
    (∀ place place', root.IsFirstFile place → root.IsFirstFile place' → place = place') ∧
    (firstFile files path).toOption = (Node.firstListed? root.topDown).map Path.joinParts := by
  obtain ⟨place, es, hplace, rfl⟩ := FileTree.exists_place_of_directory directory
  have ordered : (Node.directory es).IsOrdered := ordered.get? hplace
  have hfirst : ∀ {place}, (Node.directory es).firstFile? = some place ↔ (Node.directory es).IsFirstFile place :=
    Node.firstFile?_eq_some_iff ordered
  rw [firstFile_eq directory, Node.firstListed?_topDown ordered]
  refine ⟨?_, ?_, fun place place' => Node.IsFirstFile.unique, ?_⟩
  · rcases hfound : (Node.directory es).firstFile? with _ | found
    · refine iff_of_true rfl ?_
      intro place content hfile
      have hholds := Node.isSome_firstFile? (Node.directory es)
      rw [hfound, Node.holdsFile_of_file_below hfile] at hholds
      cases hholds
    · obtain ⟨content, hfile⟩ := (hfirst.1 hfound).isFile
      exact iff_of_false nofun fun none => none found content hfile
  · intro sample
    rcases hfound : (Node.directory es).firstFile? with _ | found
    · refine iff_of_false nofun ?_
      rintro ⟨place, first, -⟩
      rw [hfirst.2 first] at hfound
      cases hfound
    · constructor
      · rintro ⟨⟩
        exact ⟨found, hfirst.1 hfound, rfl⟩
      · rintro ⟨place, first, rfl⟩
        obtain rfl : found = place := (hfirst.1 hfound).unique first
        rfl
  · cases (Node.directory es).firstFile? <;> rfl

end FirstFile

/-- A bag with a link and directories without a file before its first file. -/
def deepBag : Node :=
  .directory [
    ("bagit.txt", .link "/elsewhere/bagit.txt"),
    ("data", .directory [
      ("empty", .directory [("none", .directory [])]),
      ("més", .directory [("a b.txt", .file [97]), ("b.txt", .file [98])])]),
    ("tags", .directory [("a.txt", .file [99])])]

/-- The space with this bag. -/
def deepSpace : FileTree :=
  ⟨.directory [("space", .directory [("aips", .directory [("bag", deepBag)])])], []⟩

lemma isOrdered_deepSpace : deepSpace.root.IsOrdered := by
  simp only [deepSpace, deepBag, Node.IsOrdered, Node.AreOrdered, Table.IsAscending, and_true]
  decide +kernel

lemma directory_deepSpace : deepSpace.directory "/space/aips/bag" = .ok deepBag := by
  cbv

lemma firstFile_deepSpace : firstFile deepSpace "/space/aips/bag" = .ok "data/més/a b.txt" := by
  have hplace : deepBag.firstFile? = some (["data", "més", "a b.txt"] : Place) := by decide +kernel
  rw [firstFile_eq directory_deepSpace, hplace]
  rfl

theorem firstFile_of_ordered_deep :
    ∃ place, deepBag.IsFirstFile place ∧ ("data/més/a b.txt" : Text) = Path.joinParts place :=
  ((firstFile_of_ordered isOrdered_deepSpace directory_deepSpace).2.1 "data/més/a b.txt").1
    firstFile_deepSpace

/-! ### The question about a file -/

section Asking

variable {τ : Type} {t : Surroundings τ}

/-- The scene once a question has been asked. -/
def Scene.asked (s : Surroundings σ) (url : Text) (scene : Scene σ Package) : Scene σ Package :=
  scene.after (s.exchange (question url)) (.exchanged (question url))

@[simp]
lemma Scene.asked_held (url : Text) : (scene.asked s url).held = scene.held := rfl

lemma Scene.since_asked (url : Text) : scene.since (scene.asked s url) =
    [.exchanged (question url) (s.exchange (question url) scene.world).1] :=
  Scene.since_after _ _ _

lemma Scene.grows_asked (url : Text) : scene.events <+: (scene.asked s url).events :=
  List.prefix_append _ _

lemma askFile_run (s : Surroundings σ) (path : Text) (scene : Scene σ Package) :
    askFile s path scene =
      ((answeredValue (question (fileUrl s scene.held path)) .file
          (s.exchange (question (fileUrl s scene.held path)) scene.world).1).bind
            (decode FileInfo.ofJson? .file),
        scene.asked s (fileUrl s scene.held path)) := by
  have hask : ask s (fileUrl s scene.held path) .file scene =
      (answeredValue (question (fileUrl s scene.held path)) .file
          (s.exchange (question (fileUrl s scene.held path)) scene.world).1,
        scene.asked s (fileUrl s scene.held path)) := rfl
  rw [askFile, Job.held_bind_run, Job.bind_run, hask]
  rcases answeredValue (question (fileUrl s scene.held path)) .file
    (s.exchange (question (fileUrl s scene.held path)) scene.world).1 with e | v <;> rfl

/-- Where an answer about a file is the same, so is what is consulted, whoever gives it. -/
lemma consult_file_congr {path : Text} {other : Scene τ Package} (bag : scene.held.shape = .uncompressed)
    (held : other.held = scene.held) (endpoints : t.endpoints = s.endpoints)
    (alike : (t.exchange (question (fileUrl s scene.held path)) other.world).1 =
      (s.exchange (question (fileUrl s scene.held path)) scene.world).1) :
    (consult t (some path) other).1 = (consult s (some path) scene).1 := by
  have hurl : fileUrl t other.held path = fileUrl s scene.held path := by
    rw [held, fileUrl, fileUrl, endpoints]
  have hasked : (askFile t path other).1 = (askFile s path scene).1 := by
    rw [askFile_run, askFile_run, hurl, alike]
  rw [consult_file bag, consult_file (held ▸ bag)]
  rcases hr : (askFile s path scene).1 with e | info <;> rw [hr] at hasked
  · rw [Job.bind_run_error hr, Job.bind_run_error hasked]
  · rw [Job.bind_run_ok hr, Job.bind_run_ok hasked]
    rfl

lemma isFileLocal_file_requests (bag : scene.held.shape = .uncompressed) (path : Text) (tell : Bool) :
    requests (scene.since (isFileLocal s (some path) tell scene).2) =
      [question (fileUrl s scene.held path)] := by
  rw [isFileLocal_run, locality_requests, bag]

/-- The mail about a file, if there is one, names it. -/
lemma isFileLocal_file_mails (bag : scene.held.shape = .uncompressed) (path : Text) (tell : Bool) :
    ∀ mail ∈ mails (scene.since (isFileLocal s (some path) tell scene).2),
      ∃ id, Notice.Tells s.superusers scene.held (some path) id mail := by
  have hmails := (isFileLocal_onlyNotified s (some path) tell scene).mails
  rw [consult_mails, List.nil_append] at hmails
  rw [hmails, consult_file bag, Job.bind_run]
  rcases askFile s path scene with ⟨e | info, after⟩
  · nofun
  · intro mail hmail
    dsimp only [Job.pure_run, dueNotice?] at hmail
    split at hmail
    · obtain rfl := List.mem_singleton.1 hmail
      exact ⟨_, Notice.mail_tells ..⟩
    · cases hmail

/-- Where an answer about a file is the same, so are what it comes to and the mail. -/
lemma isFileLocal_file_congr {path : Text} {other : Scene τ Package} (bag : scene.held.shape = .uncompressed)
    (held : other.held = scene.held) (endpoints : t.endpoints = s.endpoints)
    (superusers : t.superusers = s.superusers)
    (alike : (t.exchange (question (fileUrl s scene.held path)) other.world).1 =
      (s.exchange (question (fileUrl s scene.held path)) scene.world).1) (tell : Bool) :
    (isFileLocal t (some path) tell other).1 = (isFileLocal s (some path) tell scene).1 ∧
      mails (other.since (isFileLocal t (some path) tell other).2) =
        mails (scene.since (isFileLocal s (some path) tell scene).2) := by
  have hconsult := consult_file_congr bag held endpoints alike
  refine ⟨?_, ?_⟩
  · rw [isFileLocal_answer, isFileLocal_answer, hconsult]
  · have hdue : dueNotice? t tell other.held (consult t (some path) other).1 =
        dueNotice? s tell scene.held (consult s (some path) scene).1 := by
      rw [hconsult, held]
      unfold dueNotice?
      rw [superusers]
    rw [(isFileLocal_onlyNotified s (some path) tell scene).mails,
      (isFileLocal_onlyNotified t (some path) tell other).mails, consult_mails, consult_mails, hdue]

end Asking

/-! ### The whole bag -/

section Bag

variable {id : Text} {state : Value} {m : Manifest}

/-- What is left to do about a bag once its state is known. -/
lemma consult_of_isAnswer (bag : scene.held.shape = .uncompressed) (registered : scene.held.identifier? = some id)
    (told : IsAnswer (s.exchange (question (statusUrl s scene.held id)) scene.world).1 state) :
    consult s none scene = consultBag s state (scene.asked s (statusUrl s scene.held id)) := by
  have hstate := fetchStatus_of_isAnswer registered told
  rw [consult_bag bag, Job.bind_run, hstate]
  rfl

/-- If the state leaves it open, the bag is consulted about as its first file is. -/
lemma consultBag_of_sample (bag : scene.held.shape = .uncompressed) (read : Manifest.ofJson? state = some m)
    (unsaid : m.isLocal = none) {sample : Text}
    (found : firstFile (s.files scene.world) (scene.held.fullPath s.spaceRoot) = .ok sample) :
    consultBag s state scene = consult s (some sample) scene := by
  rw [consultBag, decode, read, Job.ofExcept_bind_run, consult_file bag]
  dsimp only
  rw [unsaid]
  dsimp only
  rw [Job.files_bind_run, Job.held_bind_run, found, Job.ofExcept_bind_run]

lemma consultBag_of_no_sample (read : Manifest.ofJson? state = some m) (unsaid : m.isLocal = none) {e : Error}
    (missing : firstFile (s.files scene.world) (scene.held.fullPath s.spaceRoot) = .error e) :
    consultBag s state scene = (.error e, scene) := by
  rw [consultBag, decode, read, Job.ofExcept_bind_run]
  dsimp only
  rw [unsaid]
  dsimp only
  rw [Job.files_bind_run, Job.held_bind_run, missing, Job.ofExcept_bind_run]

lemma consultBag_of_said (read : Manifest.ofJson? state = some m) {found : Bool}
    (said : m.isLocal = some found) : consultBag s state scene = (.ok (m.fileInfo, none), scene) := by
  rw [consultBag, decode, read, Job.ofExcept_bind_run]
  dsimp only
  rw [said]
  rfl

/-- An answer, and all that happens until then, is settled by what is consulted. -/
lemma isFileLocal_congr {path path' : Option Text} {start : Scene σ Package}
    (same : consult s path scene = consult s path' start) (tell : Bool) :
    isFileLocal s path tell scene = isFileLocal s path' tell start := by
  rw [isFileLocal, isFileLocal, locality, locality, Job.bind_run, Job.bind_run, same]

lemma requests_afterNotice {mid : Scene σ Package} (grows : scene.events <+: mid.events) (notice : Option Mail) :
    requests (scene.since (mid.afterNotice s notice)) = requests (scene.since mid) := by
  rcases notice with _ | mail
  · rfl
  · rw [Scene.afterNotice, Scene.since_append_of_grows grows (List.prefix_append _ _), requests_append,
      Scene.since_after]
    exact List.append_nil _

/-- A bag whose state leaves it open, with a file below its directory, as it goes on from the first one. -/
lemma isFileLocal_of_sample (bag : scene.held.shape = .uncompressed)
    (registered : scene.held.identifier? = some id)
    (told : IsAnswer (s.exchange (question (statusUrl s scene.held id)) scene.world).1 state)
    (read : Manifest.ofJson? state = some m) (unsaid : m.isLocal = none) {polled : Scene σ Package}
    (hpolled : polled = scene.asked s (statusUrl s scene.held id)) {sample : Text}
    (found : firstFile (s.files polled.world) (scene.held.fullPath s.spaceRoot) = .ok sample) (tell : Bool) :
    isFileLocal s none tell scene = isFileLocal s (some sample) tell polled ∧
      requests (scene.since (isFileLocal s (some sample) tell polled).2) =
        [question (statusUrl s scene.held id), question (fileUrl s scene.held sample)] ∧
      mails (scene.since (isFileLocal s (some sample) tell polled).2) =
        mails (polled.since (isFileLocal s (some sample) tell polled).2) := by
  subst hpolled
  have stillBag : (scene.asked s (statusUrl s scene.held id)).held.shape = .uncompressed := bag
  have hsingle := (isFileLocal_course (some sample) tell :
    Course s .none (scene.asked s (statusUrl s scene.held id)) _).grows
  refine ⟨?_, ?_, ?_⟩
  · apply isFileLocal_congr
    rw [consult_of_isAnswer bag registered told]
    exact consultBag_of_sample stillBag read unsaid found
  · rw [Scene.since_append_of_grows (Scene.grows_asked _) hsingle, requests_append,
      isFileLocal_file_requests stillBag, Scene.since_asked]
    rfl
  · rw [Scene.since_append_of_grows (Scene.grows_asked _) hsingle, mails_append, Scene.since_asked]
    rfl

/-- A bag whose state leaves it open, with no file below its directory. -/
lemma isFileLocal_of_no_sample (bag : scene.held.shape = .uncompressed)
    (registered : scene.held.identifier? = some id)
    (told : IsAnswer (s.exchange (question (statusUrl s scene.held id)) scene.world).1 state)
    (read : Manifest.ofJson? state = some m) (unsaid : m.isLocal = none) {e : Error}
    (missing : firstFile (s.files (scene.asked s (statusUrl s scene.held id)).world)
      (scene.held.fullPath s.spaceRoot) = .error e) (tell : Bool) :
    isFileLocal s none tell scene = (none, scene.asked s (statusUrl s scene.held id)) := by
  have hconsult : consult s none scene = (.error e, scene.asked s (statusUrl s scene.held id)) := by
    rw [consult_of_isAnswer bag registered told]
    exact consultBag_of_no_sample read unsaid missing
  rw [isFileLocal_of_error (congrArg Prod.fst hconsult), hconsult]

/-- A bag whose state tells whether it is at hand. -/
lemma isFileLocal_of_said (bag : scene.held.shape = .uncompressed)
    (registered : scene.held.identifier? = some id)
    (told : IsAnswer (s.exchange (question (statusUrl s scene.held id)) scene.world).1 state)
    (read : Manifest.ofJson? state = some m) {found : Bool} (said : m.isLocal = some found) (tell : Bool) :
    isFileLocal s none tell scene = (some found,
      (scene.asked s (statusUrl s scene.held id)).afterNotice s
        (dueNotice? s tell scene.held (.ok (m.fileInfo, none)))) := by
  have hconsult : consult s none scene =
      (.ok (m.fileInfo, none), scene.asked s (statusUrl s scene.held id)) := by
    rw [consult_of_isAnswer bag registered told]
    exact consultBag_of_said read said
  have hanswer : decide (m.fileInfo.isLocal = some true) = found := by
    rw [Manifest.fileInfo, said]
    cases found <;> rfl
  rw [isFileLocal_notice, hconsult]
  dsimp only [Except.toOption, Option.map_some]
  rw [hanswer]

/-- **A bag is judged by its first file**, if the appliance has answered the question for its state and the
answer leaves open whether the bag is at hand.

* If there is a file below the directory of the bag, then all that comes after the answer is what the question
  about the first one comes to. There is one more request, and a mail that is sent names this file. Wherever the
  question about this file is asked of the same package, with the same answer, it comes to the same and
  sends the same mail, with the same request.
* If there is none, there is no answer, no more request and no mail.

If the answer about the state tells whether the bag is at hand, this is the answer, whatever files there are;
nothing else is asked for. -/
theorem bag_judged_by_sample (bag : scene.held.shape = .uncompressed)
    (registered : scene.held.identifier? = some id)
    (told : IsAnswer (s.exchange (question (statusUrl s scene.held id)) scene.world).1 state)
    (written : m.WrittenAs state) (tell : Bool) :
    let p := scene.held
    let polled := scene.asked s (statusUrl s p id)
    let files := s.files polled.world
    let run := isFileLocal s none tell scene
    let events := scene.since run.2
    (m.isLocal = none → holdsFile s p files = true →
      ∃ sample, firstFile files (p.fullPath s.spaceRoot) = .ok sample ∧
        run = isFileLocal s (some sample) tell polled ∧
        requests events = [question (statusUrl s p id), question (fileUrl s p sample)] ∧
        (∀ mail ∈ mails events, ∃ id, Notice.Tells s.superusers p (some sample) id mail) ∧
        ∀ {τ : Type} (t : Surroundings τ) (other : Scene τ Package), t.endpoints = s.endpoints →
          t.superusers = s.superusers → other.held = p →
          (t.exchange (question (fileUrl s p sample)) other.world).1 =
            (s.exchange (question (fileUrl s p sample)) polled.world).1 →
          let single := isFileLocal t (some sample) tell other
          single.1 = run.1 ∧ mails (other.since single.2) = mails events ∧
            requests (other.since single.2) = [question (fileUrl s p sample)]) ∧
    (m.isLocal = none → holdsFile s p files = false →
      run = (none, polled) ∧ requests events = [question (statusUrl s p id)] ∧ mails events = []) ∧
    (∀ found, m.isLocal = some found →
      run.1 = some found ∧ requests events = [question (statusUrl s p id)] ∧
        ∀ files, isFileLocal { s with files } none tell scene = run) := by
  intro p polled files run events
  have read : Manifest.ofJson? state = some m := Manifest.ofJson?_eq_some_iff.2 written
  have stillBag : polled.held.shape = .uncompressed := bag
  have hfirst := isSome_firstFile s p files
  refine ⟨?_, ?_, ?_⟩
  · intro unsaid holds
    rw [holds] at hfirst
    rcases hfound : firstFile files (p.fullPath s.spaceRoot) with e | sample <;> rw [hfound] at hfirst
    · cases hfirst
    obtain ⟨hrun, hrequests, hmails⟩ := isFileLocal_of_sample bag registered told read unsaid rfl hfound tell
    have hevents : events = scene.since (isFileLocal s (some sample) tell polled).2 :=
      congrArg (fun run => scene.since run.2) hrun
    rw [← hevents] at hrequests hmails
    refine ⟨sample, rfl, hrun, hrequests, ?_, ?_⟩
    · rw [hmails]
      exact isFileLocal_file_mails stillBag sample tell
    · intro τ t other endpoints superusers held alike single
      obtain ⟨hanswer, hmail⟩ := isFileLocal_file_congr stillBag held endpoints superusers alike tell
      refine ⟨hanswer.trans (congrArg Prod.fst hrun.symm), hmail.trans hmails.symm, ?_⟩
      rw [isFileLocal_file_requests (held ▸ bag), held, fileUrl, fileUrl, endpoints]
  · intro unsaid holds
    rw [holds] at hfirst
    rcases hfound : firstFile files (p.fullPath s.spaceRoot) with e | sample <;> rw [hfound] at hfirst
    · have hrun : run = (none, polled) := isFileLocal_of_no_sample bag registered told read unsaid hfound tell
      have hevents : events = scene.since polled := congrArg (fun run => scene.since run.2) hrun
      rw [hevents, Scene.since_asked]
      exact ⟨hrun, rfl, rfl⟩
    · cases hfirst
  · intro found said
    have hrun : run = _ := isFileLocal_of_said bag registered told read said tell
    have hevents : events = _ := congrArg (fun run => scene.since run.2) hrun
    refine ⟨congrArg Prod.fst hrun, ?_, ?_⟩
    · rw [hevents, requests_afterNotice (Scene.grows_asked _), Scene.since_asked]
      rfl
    · intro files
      exact (isFileLocal_of_said (s := { s with files }) bag registered told read said tell).trans hrun.symm

end Bag

/-- An appliance that leaves open whether a bag is at hand, over this space. -/
def sampledAppliance : Surroundings Nat :=
  { greenAppliance with files := fun _ => deepSpace, superusers := ["curator@archive"] }

theorem bag_judged_by_sample_deep :
    let start : Scene Nat Package := ⟨0, stagedBag, []⟩
    let run := isFileLocal sampledAppliance none true start
    requests (start.since run.2) =
        [question "http://appliance/api/3/ingest-manifest/status/r1",
          question "http://appliance/api/2/files/fileInfo/aips/bag/data/m%C3%A9s/a+b.txt"] ∧
      mails (start.since run.2) = [{
        subject := "Arkivum file not locally available"
        message := "File data/més/a b.txt in package 0d4e: bag with Arkivum ID of unknown" ++
          " has been requested but is not available in the Arkivum cache."
        recipients := ["curator@archive"] }] := by
  intro start run
  have bag : start.held.shape = .uncompressed := rfl
  have registered : start.held.identifier? = some "r1" := by decide +kernel
  have told : IsAnswer (sampledAppliance.exchange (question (statusUrl sampledAppliance start.held "r1")) start.world).1
      (.object [(Replication.fieldName, .string "green")]) := ⟨_, rfl, by decide +kernel⟩
  have written : (⟨none, some "green", none, none, none, none⟩ : Manifest).WrittenAs
      (.object [(Replication.fieldName, .string "green")]) :=
    Manifest.ofJson?_eq_some_iff.1 (by decide +kernel)
  obtain ⟨sample, found, hrun, asked, -⟩ :=
    (bag_judged_by_sample bag registered told written true).1 rfl (by decide +kernel)
  obtain rfl : sample = "data/més/a b.txt" := Except.ok.inj (found.symm.trans firstFile_deepSpace)
  have hrun : run = _ := hrun
  refine ⟨asked.trans (by decide +kernel), ?_⟩
  rw [hrun]
  decide +kernel

end Custodian.Agent
