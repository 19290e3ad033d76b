import Custodian.Proofs.Agent.Journal
import Custodian.Proofs.CommandLine.Records
import Mathlib.Data.List.Basic

/-!
# Invocations one after another

Each invocation of the agent reads the record of its package afresh. So what holds from one invocation to
the next one is what the record says: its identifier is the one that the journal of the package is
faithful to (`InStep`).

* `InStep.execute`: an invocation preserves this, for its own package and for every other one.
* `registered_once_across_invocations`: however many invocations there are, at most one registration of a
  package has an acceptable answer, and from then on only the package of that answer is asked for.
-/

namespace Custodian.CommandLine

open Agent Appliance
open RecordStore (IsSound IsStore load)

/-! ### What happens to a package -/

/-- The configuration and the command of a command line, if both are accepted. -/
def accepted? (words : List Text) (w : World) : Option (Config × Command) :=
  match Invocation.read words with
  | .error _ => none
  | .ok invocation =>
    match loadConfig invocation.config w.machine.files with
    | .error _ => none
    | .ok c => some (c, invocation.command)

/-- What happens in a task to the package that it is about. -/
def Task.events (c : Config) (task : Task) (w : World) : List Event :=
  match task with
  | .alone _ => []
  | .withPackage uuid run =>
    match load c.storePath uuid w.machine.files with
    | .error _ => []
    | .ok p => (run ⟨w, p, []⟩).2.events

/-- What an invocation adds to the journal of a package. -/
def entriesOf (uuid : Text) (words : List Text) (w : World) : Journal :=
  match accepted? words w with
  | none => []
  | some (c, command) =>
    if (Task.ofCommand c command).uuid? = some uuid then
      entriesFor (World.surroundings c).endpoints ((Task.ofCommand c command).events c w)
    else []

/-- The journal of a package over some invocations. -/
def journal (uuid : Text) : List (List Text) → World → Journal
  | [], _ => []
  | words :: later, w => entriesOf uuid words w ++ journal uuid later (execute words w).2

/-! ### Invocations -/

/-- A command is about a package with its record in the store at a path, its saves work, and its move
spares the store. -/
structure Admissible (path : Text) (c : Config) (command : Command) (w : World) : Prop where
  store : c.storePath = path
  aboutPackage : (Task.ofCommand c command).uuid?.isSome = true
  works : SavesWork ((Task.ofCommand c command).events c w)
  spares : ∀ uuid p, (Task.ofCommand c command).uuid? = some uuid →
    load path uuid w.machine.files = .ok p → CommandSpares c ⟨w, p, []⟩ command

/-- The commands of some invocations are admissible when it is their turn. -/
def Orderly (path : Text) : List (List Text) → World → Prop
  | [], _ => True
  | words :: later, w =>
    (∀ c command, accepted? words w = some (c, command) → Admissible path c command w) ∧
      Orderly path later (execute words w).2

/-- The store is sound, and the journal of a package is faithful to the identifier on record. -/
structure InStep (path uuid : Text) (w : World) (journal : Journal) : Prop where
  sound : IsSound path w.machine.files
  faithful : ∃ identifier, journal.Faithful identifier ∧
    ∀ p, load path uuid w.machine.files = .ok p → p.identifier? = identifier

section Execute

variable {path uuid : Text} {words : List Text} {w : World} {c : Config} {command : Command}
  {earlier : Journal}

lemma execute_of_accepted? (h : accepted? words w = some (c, command)) :
    execute words w = runCommand c command w := by
  rcases hread : Invocation.read words with e | invocation
  · simp [accepted?, hread] at h
  rcases hc : loadConfig invocation.config w.machine.files with e | c
  · simp [accepted?, hread, hc] at h
  · simp only [accepted?, hread, hc, Option.some.injEq, Prod.mk.injEq] at h
    obtain ⟨rfl, rfl⟩ := h
    simp only [execute, hread, hc]

lemma execute_of_not_accepted? (h : accepted? words w = none) : (execute words w).2 = w := by
  rcases hread : Invocation.read words with e | invocation
  · simp only [execute, hread]
  rcases hc : loadConfig invocation.config w.machine.files with e | c
  · simp only [execute, hread, hc]
  · simp [accepted?, hread, hc] at h

/-- What a command does to the package that it is about, and to its record. -/
lemma runCommand_cases (sound : IsSound path w.machine.files) (h : Admissible path c command w) :
    ∃ uuid, (Task.ofCommand c command).uuid? = some uuid ∧
      ((runCommand c command w).2 = w ∧ (Task.ofCommand c command).events c w = [] ∧
          (∀ p, load path uuid w.machine.files ≠ .ok p) ∨
        ∃ p final, load path uuid w.machine.files = .ok p ∧
          Course (World.surroundings c) .all ⟨w, p, []⟩ final ∧
          Recorded path uuid w.machine.files final ∧
          (runCommand c command w).2 = final.world ∧
          (Task.ofCommand c command).events c w = final.events) := by
  obtain rfl := h.store
  rcases htask : Task.ofCommand c command with run | ⟨uuid, run⟩
  · have about := h.aboutPackage
    rw [htask] at about
    cases about
  refine ⟨uuid, rfl, ?_⟩
  rcases hload : load c.storePath uuid w.machine.files with e | p
  · refine .inl ⟨?_, ?_, by rintro p ⟨⟩⟩
    · simp only [runCommand, htask, Task.run, hload]
    · simp only [Task.events, hload]
  · have hevents : (Task.withPackage uuid run).events c w = (run ⟨w, p, []⟩).2.events := by
      simp only [Task.events, hload]
    have start : Recorded c.storePath uuid w.machine.files ⟨w, p, []⟩ :=
      ⟨sound, hload, fun _ _ _ => Iff.rfl⟩
    have works : SavesWork (Scene.since ⟨w, p, []⟩ (run ⟨w, p, []⟩).2) := by
      have hworks := h.works
      rw [htask, hevents] at hworks
      exact hworks
    have spares := h.spares uuid p (by rw [htask]; rfl) hload
    refine .inr ⟨p, (run ⟨w, p, []⟩).2, rfl, run_course htask, start.carriedOut htask works spares, ?_,
      hevents⟩
    simp only [runCommand, htask, Task.run, hload]

theorem InStep.execute (h : InStep path uuid w earlier)
    (admissible : ∀ c command, accepted? words w = some (c, command) → Admissible path c command w) :
    InStep path uuid (execute words w).2 (earlier ++ entriesOf uuid words w) := by
  rcases haccepted : accepted? words w with _ | ⟨c, command⟩
  · rw [execute_of_not_accepted? haccepted, entriesOf, haccepted, List.append_nil]
    exact h
  have hadmissible := admissible c command haccepted
  rw [execute_of_accepted? haccepted, entriesOf, haccepted]
  dsimp only
  obtain ⟨identifier, faithful, onRecord⟩ := h.faithful
  obtain ⟨other, hother, hcases⟩ := runCommand_cases h.sound hadmissible
  rw [hother]
  rcases hcases with ⟨hworld, hevents, -⟩ | ⟨p, final, hp, course, recorded, hworld, hevents⟩
  · rw [hworld, hevents]
    simpa [entriesFor] using h
  rw [hworld, hevents]
  refine ⟨recorded.sound, ?_⟩
  by_cases huuid : other = uuid
  · -- the record is the package that the command has left
    subst huuid
    rw [if_pos rfl]
    rw [← onRecord p hp] at faithful
    have hfaithful := course.faithful (a := ⟨w, p, []⟩) faithful
    refine ⟨final.held.identifier?, hfaithful, ?_⟩
    intro q hq
    rw [recorded.held] at hq
    cases hq
    rfl
  · -- the record of another package has not been touched
    rw [if_neg (by simpa using huuid), List.append_nil]
    refine ⟨identifier, faithful, ?_⟩
    intro q hq
    exact onRecord q ((recorded.others uuid (Ne.symm huuid) q).1 hq)

end Execute

/-! ### Runs -/

lemma InStep.journal_faithful {path uuid : Text} {lines : List (List Text)} {w : World}
    {earlier : Journal} (h : InStep path uuid w earlier) (orderly : Orderly path lines w) :
    ∃ identifier, (earlier ++ journal uuid lines w).Faithful identifier := by
  induction lines generalizing w earlier with
  | nil =>
    obtain ⟨identifier, faithful, -⟩ := h.faithful
    exact ⟨identifier, by simpa [journal] using faithful⟩
  | cons words later ih =>
    rw [journal, ← List.append_assoc]
    exact ih (h.execute orderly.1) orderly.2

/-- **A package is registered at most once**, however often the agent is invoked. Let the store of records
at a path be sound, and let command lines be executed one after another, each about a package with its
record there, so that every save works and every deposit spares the store. Then at most one registration
of a package has an acceptable answer, whatever the appliance answers, and from then on exactly the
package of that answer is asked for. -/
theorem registered_once_across_invocations (path uuid : Text) (lines : List (List Text)) (w : World)
    (sound : IsSound path w.machine.files) (orderly : Orderly path lines w) :
    (journal uuid lines w).acceptedIds.length ≤ 1 ∧ (journal uuid lines w).AsksAsAccepted := by
  have start : InStep path uuid w [] := by
    refine ⟨sound, ?_⟩
    rcases hload : load path uuid w.machine.files with e | p
    · exact ⟨none, Journal.faithful_nil none, by rintro p ⟨⟩⟩
    · refine ⟨p.identifier?, Journal.faithful_nil _, ?_⟩
      rintro q ⟨⟩
      rfl
  obtain ⟨identifier, faithful⟩ := start.journal_faithful orderly
  exact ⟨faithful.once, faithful.asks⟩

section Depot

variable (config record : Bytes)

/-- The files of a machine with a bag to be stored and its record. -/
def depotFiles : FileTree where
  root := .directory
    [("agent.toml", .file config),
      ("in", .directory [("bag", .empty)]),
      ("records", .directory [("u1.json", .file record)]),
      ("space", .directory [("aips", .empty)])]
  working := []

lemma depotFiles_get? (name : Text) :
    (depotFiles config record).root.get? ((["records"] : Place) ++ [name]) =
      if ("u1.json" : Text) = name then some (.file record) else none := by
  have hrecords : (depotFiles config record).root.get? ["records"] =
      some (.directory [("u1.json", .file record)]) := by
    cbv
  rw [Node.get?_append, hrecords, Option.bind_some, Node.get?_cons, Table.get?, Table.get?]
  split
  · rw [Option.bind_some, Node.get?_nil]
  · rfl

lemma depotFiles_isStore : IsStore (depotFiles config record) "/records" ["records"] where
  names := ⟨[("u1.json", .file record)], by cbv⟩
  noLinks name target h := by
    rw [depotFiles_get?] at h
    split at h <;> cases h

lemma depotFiles_moveSpares :
    MoveSpares "/records" "/in/bag" "/space/aips/bag" (depotFiles config record) := by
  rintro place a b - ⟨es, hes⟩ ha hb -
  have hplace : (depotFiles config record).resolve "/records" =
      .ok (.found ["records"] (.directory [("u1.json", .file record)])) := by
    cbv
  have hsource : (depotFiles config record).entry "/in/bag" = .ok ⟨["in"], "bag", false⟩ := by
    cbv
  have htarget : (depotFiles config record).entry "/space/aips/bag" =
      .ok ⟨["space", "aips"], "bag", false⟩ := by
    cbv
  cases hplace.symm.trans hes
  cases hsource.symm.trans ha
  cases htarget.symm.trans hb
  exact ⟨⟨[("u1.json", .file record)], by cbv⟩, by decide, by decide⟩

lemma depotFiles_createLocalDirectory {m : Machine} (h : m.files = depotFiles config record) :
    (Space.createLocalDirectory "/space/aips/bag" m).2.files = depotFiles config record := by
  have hparent : Path.parent? "/space/aips/bag" = some ("/space/aips" : Text) := by
    cbv
  have hmade : (depotFiles config record).makeDirectories "/space/aips" =
      (.ok (), depotFiles config record) := by
    cbv
  unfold Space.createLocalDirectory
  simp only [hparent, h, hmade]

/-- A bag that is not registered yet. -/
def newBag : Package where
  uuid := "u1"
  currentPath := "bag"
  location := "aips"
  shape := .uncompressed
  status := .staging
  attributes := []

/-- A machine with this bag, and an appliance that registers whatever it is sent. -/
def depot : World where
  machine := {
    files := depotFiles
      (Utf8.encode "store_path = '/records'\nspace.path = '/space'\narkivum.host = 'appliance'\n".toList)
      (RecordStore.content newBag)
    programs := []
    searchPath := []
    ending _ _ := ⟨0, [], []⟩
    runs := [] }
  exchange _ _ := .answered 200 (Utf8.encode "\x7b\"id\":\"r1\"\x7d".toList)
  requests := []

/-- The configuration that this machine has. -/
def depotConfig : Config where
  storePath := "/records"
  spacePath := "/space"
  appliance := ⟨"appliance", Config.defaultScheme, none, none, false⟩
  mail := Config.defaultMail

/-- The bag is stored, and then asked for. -/
def storing : List (List Text) :=
  [["store", "u1", "/in/bag"], ["status", "u1"]]

lemma depot_isStore : IsStore depot.machine.files "/records" ["records"] :=
  depotFiles_isStore _ _

lemma eq_newBag {uuid : Text} {p : Package}
    (hload : load "/records" uuid depot.machine.files = .ok p) : uuid = "u1" ∧ p = newBag := by
  have plain : newBag.IsPlain := ⟨by decide, Table.isAscending_nil, trivial⟩
  obtain ⟨-, -, bytes, hfile, hp⟩ := depot_isStore.load_iff.1 hload
  change (depotFiles _ _).root.get? _ = _ at hfile
  rw [depotFiles_get?] at hfile
  split at hfile
  · next hname =>
    cases hfile
    rw [RecordStore.ofContent?_content plain] at hp
    have huuid : RecordStore.recordName "u1" = RecordStore.recordName uuid := hname
    exact ⟨(RecordStore.recordName_injective huuid).symm, (Option.some.inj hp).symm⟩
  · cases hfile

lemma depot_isSound : IsSound "/records" depot.machine.files where
  store := ⟨["records"], depot_isStore⟩
  own uuid p hload := by
    obtain ⟨rfl, rfl⟩ := eq_newBag hload
    rfl
  integers uuid p hload := by
    obtain ⟨-, rfl⟩ := eq_newBag hload
    rfl

lemma newBag_spares : CommandSpares depotConfig ⟨depot, newBag, []⟩ (.store "u1" "/in/bag") := by
  have hpath : newBag.fullPath depotConfig.spacePath = "/space/aips/bag" := by
    cbv
  rintro - -
  dsimp only
  rw [hpath, depotFiles_createLocalDirectory _ _ rfl]
  exact depotFiles_moveSpares _ _

lemma storing_orderly : Orderly "/records" storing depot := by
  refine ⟨?_, ?_, trivial⟩
  · intro c command h
    have haccepted : accepted? ["store", "u1", "/in/bag"] depot =
        some (depotConfig, .store "u1" "/in/bag") := by
      decide +kernel
    cases haccepted.symm.trans h
    refine ⟨rfl, rfl, by decide +kernel, ?_⟩
    intro uuid p _ hload
    obtain ⟨-, rfl⟩ := eq_newBag hload
    exact newBag_spares
  · intro c command h
    have haccepted : accepted? ["status", "u1"] (execute ["store", "u1", "/in/bag"] depot).2 =
        some (depotConfig, .status "u1") := by
      decide +kernel
    cases haccepted.symm.trans h
    refine ⟨rfl, rfl, by decide +kernel, ?_⟩
    intro uuid p _ _
    exact trivial

/-- A bag that is stored is registered then, and asked for under the identifier that it got. -/
theorem registered_once_across_invocations_storing :
    IsSound "/records" depot.machine.files ∧ Orderly "/records" storing depot ∧
      (journal "u1" storing depot).acceptedIds = [("r1" : Text)] ∧
      (journal "u1" storing depot).AsksAsAccepted :=
  ⟨depot_isSound, storing_orderly, by decide +kernel,
    (registered_once_across_invocations "/records" "u1" storing depot depot_isSound storing_orderly).2⟩

end Depot

end Custodian.CommandLine
