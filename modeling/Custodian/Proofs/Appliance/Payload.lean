import Custodian.Appliance.Payload
import Custodian.Proofs.Json.Fields
import Custodian.Proofs.Sequence

/-!
# What is written in a payload

The records of the appliance as they are written in JSON: each field by its name in an object, or by its place
in an array. A field may be missing or `null`, and is of one kind otherwise; only the reason of a failure has to
be there. A record with a field of another kind is not written at all, whatever its other fields.

Reading a record gives what is written, and nothing is read where no record is written
(`Manifest.ofJson?_eq_some_iff` and its likes).
-/

namespace Custodian.Appliance

open Json (Value)
open Json.Value (Optionally)

variable {v : Value}

/-- What is known about a file, as it is written. -/
structure FileInfo.WrittenAs (info : FileInfo) (v : Value) : Prop where
  record : v.IsRecord 3
  id : Optionally (· = ·) (v.field? "id" 0) info.id
  replication : Optionally (· = .string ·) (v.field? "replicationState" 1) info.replication
  isLocal : Optionally (· = .bool ·) (v.field? "local" 2) info.isLocal

/-- A failure, as it is written. -/
structure FixityFailure.WrittenAs (failure : FixityFailure) (v : Value) : Prop where
  record : v.IsRecord 2
  reason : v.field? "reason" 0 = some (.string failure.reason)
  filePath : Optionally (· = .string ·) (v.field? "filepath" 1) failure.filePath

/-- Failures, as they are listed. -/
def FixityFailure.ListedAs (v : Value) (failures : List FixityFailure) : Prop :=
  ∃ items, v = .array items ∧ List.Forall₂ (fun item failure => failure.WrittenAs item) items failures

/-- The state of a registered file, as it is written. -/
structure FileRelease.WrittenAs (release : FileRelease) (v : Value) : Prop where
  record : v.IsRecord 1
  fileInformation : Optionally (fun v info => info.WrittenAs v) (v.field? "fileInformation" 0)
    release.fileInformation

/-- The state of a registered bag, as it is written. -/
structure Manifest.WrittenAs (m : Manifest) (v : Value) : Prop where
  record : v.IsRecord 6
  id : Optionally (· = ·) (v.field? "id" 0) m.id
  replication : Optionally (· = .string ·) (v.field? "replicationState" 1) m.replication
  isLocal : Optionally (· = .bool ·) (v.field? "local" 2) m.isLocal
  status : Optionally (· = .string ·) (v.field? "status" 3) m.status
  failures : Optionally FixityFailure.ListedAs (v.field? "failures" 4) m.failures
  fixityLastChecked : Optionally (· = .string ·) (v.field? "fixityLastChecked" 5) m.fixityLastChecked

lemma optional?_some_eq_some_iff {field a : Option Value} :
    Value.optional? some field = some a ↔ Optionally (· = ·) field a :=
  Value.optional?_eq_some_iff fun _ _ => Option.some_inj

lemma optional?_text?_eq_some_iff {field : Option Value} {a : Option Text} :
    Value.optional? Value.text? field = some a ↔ Optionally (· = .string ·) field a :=
  Value.optional?_eq_some_iff fun _ _ => Value.text?_eq_some_iff

lemma optional?_bool?_eq_some_iff {field : Option Value} {a : Option Bool} :
    Value.optional? Value.bool? field = some a ↔ Optionally (· = .bool ·) field a :=
  Value.optional?_eq_some_iff fun _ _ => Value.bool?_eq_some_iff

/-- **What is known about a file** is read as it is written. -/
theorem FileInfo.ofJson?_eq_some_iff {info : FileInfo} : ofJson? v = some info ↔ info.WrittenAs v := by
  simp only [ofJson?, Option.bind_eq_bind, Option.bind_eq_some_iff, Value.fields?_eq_some_iff, and_assoc,
    exists_and_left, exists_eq_left, fieldNames, List.mapIdx_cons, List.mapIdx_nil,
    optional?_some_eq_some_iff, optional?_text?_eq_some_iff, optional?_bool?_eq_some_iff]
  constructor
  · rintro ⟨record, id, hid, replication, hreplication, isLocal, hlocal, ⟨⟩⟩
    exact ⟨record, hid, hreplication, hlocal⟩
  · intro h
    exact ⟨h.record, _, h.id, _, h.replication, _, h.isLocal, rfl⟩

/-- **A failure** is read as it is written. -/
theorem FixityFailure.ofJson?_eq_some_iff {failure : FixityFailure} :
    ofJson? v = some failure ↔ failure.WrittenAs v := by
  simp only [ofJson?, Option.bind_eq_bind, Option.bind_eq_some_iff, Value.fields?_eq_some_iff, and_assoc,
    exists_and_left, exists_eq_left, fieldNames, List.mapIdx_cons, List.mapIdx_nil]
  constructor
  · rintro ⟨record, h⟩
    rcases hreason : v.field? "reason" 0 with _ | reason <;> rw [hreason] at h
    · cases h
    · simp only [Option.bind_eq_some_iff, Value.text?_eq_some_iff, optional?_text?_eq_some_iff] at h
      obtain ⟨reason, rfl, filePath, hfilePath, ⟨⟩⟩ := h
      exact ⟨record, hreason, hfilePath⟩
  · intro h
    refine ⟨h.record, ?_⟩
    rw [h.reason]
    simp only [Option.bind_eq_some_iff, Value.text?_eq_some_iff, optional?_text?_eq_some_iff]
    exact ⟨_, rfl, _, h.filePath, rfl⟩

lemma FixityFailure.listOfJson?_eq_some_iff {failures : List FixityFailure} :
    listOfJson? v = some failures ↔ ListedAs v failures := by
  cases v with
  | array items => simp [listOfJson?, ListedAs, mapM_eq_some_iff, ofJson?_eq_some_iff]
  | _ => simp [listOfJson?, ListedAs]

/-- **The state of a registered file** is read as it is written. -/
theorem FileRelease.ofJson?_eq_some_iff {release : FileRelease} :
    ofJson? v = some release ↔ release.WrittenAs v := by
  simp only [ofJson?, Option.bind_eq_bind, Option.bind_eq_some_iff, Value.fields?_eq_some_iff, and_assoc,
    exists_and_left, exists_eq_left, List.mapIdx_cons, List.mapIdx_nil,
    Value.optional?_eq_some_iff fun _ _ => FileInfo.ofJson?_eq_some_iff]
  constructor
  · rintro ⟨record, info, hinfo, ⟨⟩⟩
    exact ⟨record, hinfo⟩
  · intro h
    exact ⟨h.record, _, h.fileInformation, rfl⟩

/-- **The state of a registered bag** is read as it is written. -/
theorem Manifest.ofJson?_eq_some_iff {m : Manifest} : ofJson? v = some m ↔ m.WrittenAs v := by
  simp only [ofJson?, Option.bind_eq_bind, Option.bind_eq_some_iff, Value.fields?_eq_some_iff, and_assoc,
    exists_and_left, exists_eq_left, fieldNames, List.mapIdx_cons, List.mapIdx_nil,
    optional?_some_eq_some_iff, optional?_text?_eq_some_iff, optional?_bool?_eq_some_iff,
    Value.optional?_eq_some_iff fun _ _ => FixityFailure.listOfJson?_eq_some_iff]
  constructor
  · rintro ⟨record, id, hid, replication, hreplication, isLocal, hlocal, status, hstatus, failures, hfailures,
      fixityLastChecked, hchecked, ⟨⟩⟩
    exact ⟨record, hid, hreplication, hlocal, hstatus, hfailures, hchecked⟩
  · intro h
    exact ⟨h.record, _, h.id, _, h.replication, _, h.isLocal, _, h.status, _, h.failures, _,
      h.fixityLastChecked, rfl⟩

end Custodian.Appliance
