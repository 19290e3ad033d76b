import Custodian.Proofs.CommandLine.Invocations
import Custodian.Proofs.Package.Advances

/-!
# Commands and the files of their packages

A command finds its package under the uuid that it is given, but saves it under the uuid that the package
states. Whatever the store holds, a registration or a question changes no file but the record of the stated
uuid and its temporary file, and this record only to the package as the command has advanced it.

* `Confined.step`: each step keeps this so, whether its save works or not.
* `execute_leaves_other_files`: so does every registration and every question.
* `register_changes_other_record`: the uuid that is given need not be the one that is stated.
-/

namespace Custodian.CommandLine

open Agent Appliance
open FileTree (SameFilesBut)
open Package (Advances)
open RecordStore (IsStore Admits isAcceptable ownPlaces recordName temporaryName content ofContent? load)

/-- What a command for a package leaves in a store: the other files are as before, and the record of the
package, too, or it holds the package with its first identifier, or marked as uploaded, or both. -/
structure Leaves (path : Text) (place : Place) (p : Package) (before after : FileTree) : Prop where
  others : SameFilesBut (ownPlaces place p.uuid) before after
  record : SameFilesBut [place ++ [temporaryName p.uuid]] before after ∨
    ∃ q, Advances p q ∧
      after.root.get? (place ++ [recordName p.uuid]) = some (.file (content q)) ∧
      (load path p.uuid after = .ok q ↔ ∀ x ∈ p.doubles, x.ReadsBack)
  /-- A package that was found in its own record is found there again. -/
  found : load path p.uuid before = .ok p → (∀ x ∈ p.doubles, x.ReadsBack) →
    ∃ q, Advances p q ∧ load path p.uuid after = .ok q

/-! ### Steps -/

/-- Only the files of the package `p` have changed, and what is held is `p` as it has advanced. -/
structure Confined (path : Text) (place : Place) (p : Package) (before : FileTree)
    (scene : Scene World Package) : Prop where
  store : IsStore scene.world.machine.files path place
  held : Advances p scene.held
  others : SameFilesBut (ownPlaces place p.uuid) before scene.world.machine.files
  record : SameFilesBut [place ++ [temporaryName p.uuid]] before scene.world.machine.files ∨
    ∃ q, Advances p q ∧ isAcceptable p.uuid = true ∧ Admits path (recordName p.uuid) ∧
      scene.world.machine.files.root.get? (place ++ [recordName p.uuid]) = some (.file (content q))

section Steps

variable {c : Config} {path : Text} {place : Place} {p q : Package} {before : FileTree} {scope : Scope}
  {a b : Scene World Package}

lemma Confined.of_files (h : Confined path place p before a) (held : b.held = a.held)
    (files : b.world.machine.files = a.world.machine.files) : Confined path place p before b where
  store := files ▸ h.store
  held := held ▸ h.held
  others := files ▸ h.others
  record := files ▸ h.record

/-- A save touches no other files, whatever comes of it. -/
lemma Confined.keep (h : Confined c.storePath place p before a) (advances : Advances p q) :
    Confined c.storePath place p before (a.keep (World.surroundings c) q) := by
  have hsave : RecordStore.save c.storePath q a.world.machine.files =
      ((RecordStore.save c.storePath q a.world.machine.files).1,
        (a.keep (World.surroundings c) q).world.machine.files) := rfl
  obtain ⟨store, hothers, hrecord⟩ := h.store.save_frame hsave
  rw [advances.uuid] at hothers hrecord
  refine ⟨store, advances, h.others.trans hothers, ?_⟩
  rcases hrecord with hsame | ⟨hacceptable, hadmits, hfile⟩
  · rcases h.record with hbefore | ⟨r, hr, hacceptable, hadmits, hfile⟩
    · exact .inl (hbefore.trans hsame)
    · -- what an earlier save has put into the record is still there
      have hkept := (RecordStore.record_iff_of_temporary hsame (content r)).2 hfile
      exact .inr ⟨r, hr, hacceptable, hadmits, hkept⟩
  · exact .inr ⟨q, advances, hacceptable, hadmits, hfile⟩

/-- **A step touches no other files**, if it transfers nothing. -/
theorem Confined.step (h : Confined c.storePath place p before a)
    (step : Step (World.surroundings c) scope a b) (still : ¬scope.transfers) :
    Confined c.storePath place p before b := by
  cases step with
  | requested => exact h.of_files rfl rfl
  | refused => exact h.of_files rfl rfl
  | registered request id absent post accepted =>
    have hmid : Confined c.storePath place p before
        (a.after ((World.surroundings c).exchange request) (.exchanged request)) := h.of_files rfl rfl
    exact hmid.keep (h.held.setIdentifier absent id)
  | marked allowed id present fresh => exact h.keep h.held.upload
  | told mail => exact h.of_files rfl (send_files mail a.world)
  | transferred allowed => exact absurd allowed still

theorem Confined.course (h : Confined c.storePath place p before a)
    (course : Course (World.surroundings c) scope a b) (still : ¬scope.transfers) :
    Confined c.storePath place p before b := by
  induction course with
  | refl => exact h
  | tail _ step ih => exact ih.step step still

end Steps

/-! ### Commands -/

section Commands

variable {c : Config} {command : Command} {uuid path : Text} {place : Place} {p : Package}
  {before : FileTree} {scene : Scene World Package} {w : World}

lemma Confined.leaves (h : Confined path place p before scene) (store : IsStore before path place)
    (hload : load path uuid before = .ok p) :
    Leaves path place p before scene.world.machine.files := by
  obtain ⟨-, bytes, -, hbytes⟩ := RecordStore.load_eq_ok_iff.1 hload
  obtain ⟨text, -, hread⟩ := Option.bind_eq_some_iff.1 hbytes
  have hsaved : ∀ q, Advances p q → isAcceptable p.uuid = true → Admits path (recordName p.uuid) →
      scene.world.machine.files.root.get? (place ++ [recordName p.uuid]) = some (.file (content q)) →
      (load path p.uuid scene.world.machine.files = .ok q ↔ ∀ x ∈ p.doubles, x.ReadsBack) := by
    intro q hq hacceptable hadmits hfile
    rw [← hq.read?_wide_iff hread, h.store.load_iff, hfile]
    simp [hacceptable, hadmits, ofContent?, content, Utf8.decode?_encode]
  refine ⟨h.others, ?_, ?_⟩
  · rcases h.record with hsame | ⟨q, hq, hacceptable, hadmits, hfile⟩
    · exact .inl hsame
    · exact .inr ⟨q, hq, hfile, hsaved q hq hacceptable hadmits hfile⟩
  · intro hown readsBack
    rcases h.record with hsame | ⟨q, hq, hacceptable, hadmits, hfile⟩
    · have hkept := store.load_congr h.store (RecordStore.record_iff_of_temporary hsame) p
      exact ⟨p, .refl p, hkept.2 hown⟩
    · exact ⟨q, hq, (hsaved q hq hacceptable hadmits hfile).2 readsBack⟩

lemma runCommand_leaves (asked : command.asked? = some uuid)
    (store : IsStore w.machine.files c.storePath place)
    (hload : load c.storePath uuid w.machine.files = .ok p) :
    Leaves c.storePath place p w.machine.files (runCommand c command w).2.machine.files := by
  obtain ⟨run, htask, hrun⟩ := command.exists_run c asked
  obtain ⟨scope, still, course⟩ := hrun ⟨w, p, []⟩
  have start : Confined c.storePath place p w.machine.files ⟨w, p, []⟩ :=
    ⟨store, .refl p, .refl _ _, .inl (.refl _ _)⟩
  have hworld : (runCommand c command w).2 = (run ⟨w, p, []⟩).2.world := by
    simp only [runCommand, htask, Task.run, hload]
  rw [hworld]
  exact (start.course course still).leaves store hload

lemma runCommand_of_load_error (asked : command.asked? = some uuid) {e : RecordStore.Error}
    (hload : load c.storePath uuid w.machine.files = .error e) : (runCommand c command w).2 = w := by
  obtain ⟨run, htask, -⟩ := command.exists_run c asked
  simp only [runCommand, htask, Task.run, hload]

/-- **A command for one package leaves the files of the others.** Let a command line register a package or
ask about one. If its configuration or its record cannot be read, then nothing changes. If the store lies
at a place that has no links in it, and a package is found, then all files but the record of the uuid that
this package states, and its temporary file, are as before, whatever the appliance answers and whether saves
work or not. -/
theorem execute_leaves_other_files {words : List Text} {w : World} {invocation : Invocation} {uuid : Text}
    (read : Invocation.read words = .ok invocation) (asked : invocation.command.asked? = some uuid) :
    (∀ e, loadConfig invocation.config w.machine.files = .error e → (execute words w).2 = w) ∧
      ∀ c, loadConfig invocation.config w.machine.files = .ok c →
        (∀ e, load c.storePath uuid w.machine.files = .error e → (execute words w).2 = w) ∧
          ∀ p place, load c.storePath uuid w.machine.files = .ok p →
            IsStore w.machine.files c.storePath place →
              Leaves c.storePath place p w.machine.files (execute words w).2.machine.files := by
  refine ⟨?_, ?_⟩
  · intro e hconfig
    simp only [execute, read, hconfig]
  · intro c hconfig
    have hrun : execute words w = runCommand c invocation.command w := by
      simp only [execute, read, hconfig]
    rw [hrun]
    exact ⟨fun e hload => runCommand_of_load_error asked hload,
      fun p place hload store => runCommand_leaves asked store hload⟩

end Commands

/-! ### Archives -/

section Archive

/-- The files of a machine with some records. -/
def archiveFiles (config : Bytes) (records : List (Text × Bytes)) : FileTree where
  root := .directory
    [("agent.toml", .file config),
      ("records", .directory (records.map fun (name, content) => (name, .file content)))]
  working := []

lemma archiveFiles_isStore (config : Bytes) (records : List (Text × Bytes)) :
    IsStore (archiveFiles config records) "/records" ["records"] where
  names := ⟨records.map fun (name, content) => (name, .file content), by cbv⟩
  noLinks := Node.not_link_of_files rfl

/-- The machine of the depot with some records, given by name and content. -/
def archive (records : List (Text × Bytes)) : World :=
  { depot with machine := { depot.machine with
      files := archiveFiles
        (Utf8.encode "store_path = '/records'\nspace.path = '/space'\narkivum.host = 'appliance'\n".toList)
        records } }

lemma archive_isStore (records : List (Text × Bytes)) :
    IsStore (archive records).machine.files "/records" ["records"] :=
  archiveFiles_isStore _ records

/-- A bag that is registered and uploaded. -/
def uploadedBag : Package :=
  { newBag.setIdentifier "r2" with uuid := "u2", status := .uploaded }

/-- The bag `u1` and another one, each in its record. -/
def twoBags : World :=
  archive [("u1.json", content newBag), ("u2.json", content uploadedBag)]

/-- The bag `u1` is registered, and the other record is as before. -/
theorem execute_leaves_other_files_twoBags :
    Invocation.read ["register", "u1"] = .ok ⟨"agent.toml", .register "u1"⟩ ∧
      loadConfig "agent.toml" twoBags.machine.files = .ok depotConfig ∧
      load "/records" "u1" twoBags.machine.files = .ok newBag ∧
      IsStore twoBags.machine.files "/records" ["records"] ∧
      Leaves "/records" ["records"] newBag twoBags.machine.files
        (execute ["register", "u1"] twoBags).2.machine.files ∧
      load "/records" "u1" (execute ["register", "u1"] twoBags).2.machine.files =
        .ok (newBag.setIdentifier "r1") := by
  have read : Invocation.read ["register", "u1"] = .ok ⟨"agent.toml", .register "u1"⟩ := by
    decide +kernel
  have config : loadConfig "agent.toml" twoBags.machine.files = .ok depotConfig := by
    decide +kernel
  have loaded : load "/records" "u1" twoBags.machine.files = .ok newBag := by
    decide +kernel
  refine ⟨read, config, loaded, archive_isStore _, ?_, by decide +kernel⟩
  exact ((execute_leaves_other_files read rfl).2 depotConfig config).2 newBag ["records"] loaded
    (archive_isStore _)

/-- A bag that states another uuid than the name of its record. -/
def strayBag : Package :=
  { newBag with uuid := "u2" }

/-- The record `u1` holds a bag that states the uuid `u2`. -/
def strayRecord : World :=
  archive [("u1.json", content strayBag), ("u2.json", content uploadedBag)]

/-- The record of a bag with an attribute of which the last digit gets lost. -/
def driftingRecord : World :=
  archive [("u1.json", Utf8.encode ("\x7b\"uuid\":\"u1\",\"current_path\":\"bag\",\"location\":\"aips\"," ++
    "\"shape\":\x7b\"shape\":\"uncompressed\"\x7d,\"status\":\"STAGING\"," ++
    "\"misc_attributes\":\x7b\"ratio\":22.155e-25\x7d\x7d").toList)]

/-- The bag in the record that drifts. -/
def driftingBag : Package :=
  { newBag with attributes := [("ratio", .number (.double ⟨false, 6031164671306714, -131⟩))] }

/-- The bag that is read after that. -/
def driftedBag : Package :=
  { newBag.setIdentifier "r1" with
    attributes := Table.insert "ratio" (.number (.double ⟨false, 6031164671306713, -131⟩))
      (newBag.setIdentifier "r1").attributes }

/-- **The uuid that is given does not name what changes.** If the bag `u1` states the uuid `u2`, then to
register `u1` changes the record `u2`. And a bag need not be read again as it was saved: one of its doubles
may have drifted. -/
theorem register_changes_other_record :
    (IsStore strayRecord.machine.files "/records" ["records"] ∧
      load "/records" "u1" strayRecord.machine.files = .ok strayBag ∧
      strayRecord.machine.files.readFile "/records/u2.json" = .ok (content uploadedBag) ∧
      (execute ["register", "u1"] strayRecord).2.machine.files.readFile "/records/u2.json" =
        .ok (content (strayBag.setIdentifier "r1")) ∧
      content (strayBag.setIdentifier "r1") ≠ content uploadedBag) ∧
    (IsStore driftingRecord.machine.files "/records" ["records"] ∧
      load "/records" "u1" driftingRecord.machine.files = .ok driftingBag ∧
      ¬∃ q, Advances driftingBag q ∧
        load "/records" "u1" (execute ["register", "u1"] driftingRecord).2.machine.files = .ok q) := by
  refine ⟨⟨archive_isStore _, by decide +kernel, by decide +kernel, by decide +kernel, by decide +kernel⟩,
    archive_isStore _, by decide +kernel, ?_⟩
  have drifted : load "/records" "u1" (execute ["register", "u1"] driftingRecord).2.machine.files =
      .ok driftedBag := by
    decide +kernel
  rintro ⟨q, hadvances, hload⟩
  obtain rfl := Except.ok.inj (drifted.symm.trans hload)
  have hratio : Table.get? "ratio" driftedBag.attributes = Table.get? "ratio" driftingBag.attributes :=
    hadvances.get?_of_ne (by decide)
  revert hratio
  decide

end Archive

end Custodian.CommandLine
