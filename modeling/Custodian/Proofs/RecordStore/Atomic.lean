import Custodian.Proofs.FileTree.Making
import Custodian.Proofs.RecordStore

/-!
# Saving is atomic

A save may stop at any point: it fails, or it is interrupted while it makes directories, while the temporary
file is written, or around the renaming (`Stops`). Renaming itself is one step. Wherever it stops, the record
of the package is as before or complete, and the other records are as before (`save_atomic`).

* `readsAlike_of_makes`: while directories are made, records are read as before.
* `readsAlike_of_write`: while the temporary file is written, they are, too, since it is no record.
* `reads_of_rename`: after the renaming the one record is complete, and the others are read as before.
* `asComplete_eq_ok_iff`: the complete record is read as the package just if the package is plain.
-/

namespace Custodian.RecordStore

open FileTree Relation

variable {path : Text} {place : Place} {t t' made written : FileTree} {p : Package} {uuid : Text}
  {answer? : Option (Except Error Unit)}

/-! ### Where a save stops -/

/-- What a save has done when it stops, and what it answers then, if it is not interrupted. -/
inductive Stops (path : Text) (p : Package) (t : FileTree) : Option (Except Error Unit) → FileTree → Prop
  /-- Some of the directories are made. -/
  | making {answer? : Option (Except Error Unit)} {made : FileTree}
      (makes : Makes (ancestors path.length path) t made)
      (answered : answer? = none ∨ answer? = some (.error (.directoryNotMade path))) :
      Stops path p t answer? made
  /-- There is no temporary file that can be written. -/
  | opening {made : FileTree} (directory : t.makeDirectories path = (.ok (), made)) :
      Stops path p t (some (.error .notWritten)) made
  /-- Some of the bytes are in the temporary file, or none or all of them. -/
  | writing {answer? : Option (Except Error Unit)} {made written : FileTree}
      (directory : t.makeDirectories path = (.ok (), made)) (count : Nat)
      (write : made.writeFile (Path.join path (temporaryName p.uuid)) ((content p).take count) = .ok written)
      (answered : answer? = none ∨ answer? = some (.error .notWritten)) :
      Stops path p t answer? written
  /-- The temporary file is complete. -/
  | ready {answer? : Option (Except Error Unit)} {made written : FileTree}
      (directory : t.makeDirectories path = (.ok (), made))
      (write : made.writeFile (Path.join path (temporaryName p.uuid)) (content p) = .ok written)
      (answered : answer? = none ∨ answer? = some (.error .notRenamed)) :
      Stops path p t answer? written
  /-- The temporary file has become the record. -/
  | replaced {answer? : Option (Except Error Unit)} {made written renamed : FileTree}
      (directory : t.makeDirectories path = (.ok (), made))
      (write : made.writeFile (Path.join path (temporaryName p.uuid)) (content p) = .ok written)
      (rename : written.rename (Path.join path (temporaryName p.uuid))
        (Path.join path (recordName p.uuid)) = .ok renamed)
      (answered : answer? = none ∨ answer? = some (.ok ())) :
      Stops path p t answer? renamed

/-- **A save that is not interrupted** stops where it answers. -/
theorem stops_save (acceptable : isAcceptable p.uuid = true) :
    Stops path p t (some (save path p t).1) (save path p t).2 := by
  have hrecord : recordPath path p.uuid = .ok (Path.join path (recordName p.uuid)) :=
    recordPath_eq_ok_iff.2 ⟨acceptable, rfl⟩
  unfold save
  rw [hrecord]
  dsimp only
  rcases hmade : t.makeDirectories path with ⟨fault | ⟨⟩, made⟩ <;> dsimp only
  · have makes := makeDirectories_makes t path
    rw [hmade] at makes
    exact .making makes (.inr rfl)
  rw [temporaryPath_join acceptable]
  rcases hwritten : made.writeFile (Path.join path (temporaryName p.uuid)) (content p) with
    fault | written <;> dsimp only
  · exact .opening hmade
  rcases hrenamed : written.rename (Path.join path (temporaryName p.uuid))
    (Path.join path (recordName p.uuid)) with fault | renamed
  · exact .ready hmade hwritten (.inr rfl)
  · exact .replaced hmade hwritten hrenamed (.inr rfl)

/-! ### Reading the same -/

/-- The same bytes are read from the record of a uuid, or none. -/
def ReadsAlike (path uuid : Text) (t t' : FileTree) : Prop :=
  ∀ bytes, t'.readFile (Path.join path (recordName uuid)) = .ok bytes ↔
    t.readFile (Path.join path (recordName uuid)) = .ok bytes

lemma ReadsAlike.trans {t'' : FileTree} (h : ReadsAlike path uuid t t') (h' : ReadsAlike path uuid t' t'') :
    ReadsAlike path uuid t t'' :=
  fun bytes => (h' bytes).trans (h bytes)

/-- The record is read alike through the dot and through the empty path. -/
lemma readsAlike_orHere (acceptable : isAcceptable uuid = true) :
    ReadsAlike (orHere path) uuid t t' ↔ ReadsAlike path uuid t t' := by
  unfold ReadsAlike
  simp only [readFile_orHere (isName_recordName acceptable)]

/-- What is loaded depends on nothing but the bytes that are read. -/
lemma load_congr (h : isAcceptable uuid = true → ReadsAlike path uuid t t') :
    load path uuid t' = load path uuid t := by
  rcases hrecord : recordPath path uuid with e | record
  · rw [load_of_recordPath hrecord, load_of_recordPath hrecord]
  obtain ⟨acceptable, rfl⟩ := recordPath_eq_ok_iff.1 hrecord
  have alike := h acceptable
  rcases hread : t.readFile (Path.join path (recordName uuid)) with fault | bytes
  · rcases hread' : t'.readFile (Path.join path (recordName uuid)) with fault' | bytes'
    · rw [load_of_readFile hrecord hread, load_of_readFile hrecord hread']
    · rw [(alike bytes').1 hread'] at hread
      cases hread
  · rw [load_of_bytes hrecord hread, load_of_bytes hrecord ((alike bytes).2 hread)]

/-- In a store that has the same files under its names, a record is read alike. -/
lemma IsStore.readsAlike (h : IsStore t path place) (h' : IsStore t' path place)
    (acceptable : isAcceptable uuid = true)
    (same : ∀ bytes, t'.root.get? (place ++ [recordName uuid]) = some (.file bytes) ↔
      t.root.get? (place ++ [recordName uuid]) = some (.file bytes)) : ReadsAlike path uuid t t' := by
  intro bytes
  rw [h.readFile_iff (isName_recordName acceptable), h'.readFile_iff (isName_recordName acceptable), same]

/-! ### Making the directory -/

/-- The directory of a path, if there is one, has no links in it. The empty path stands for the working
directory. -/
def HasNoLinks (t : FileTree) (path : Text) : Prop :=
  ∀ place, t.Names (orHere path) place → ∀ name target, t.root.get? (place ++ [name]) ≠ some (.link target)

lemma HasNoLinks.isStore (h : HasNoLinks t path) (names : t.Names (orHere path) place) :
    IsStore t (orHere path) place :=
  ⟨names, h place names⟩

section Making

variable (noLinks : HasNoLinks t path) (straight : t.IsStraight path)
  (makes : Makes (ancestors path.length path) t made)

include straight makes in
/-- The directory that is there while directories are made was there before, or nothing was. -/
lemma names_cases_of_makes (names : made.Names (orHere path) place) :
    t.Names (orHere path) place ∨ t.root.get? place = none := by
  by_cases hpath : path = []
  · -- for the empty path nothing is made
    subst hpath
    rcases ReflTransGen.cases_head makes with rfl | ⟨after, ⟨above, habove, -⟩, -⟩
    · exact .inl names
    · cases habove
  · unfold orHere at names ⊢
    rw [if_neg hpath] at names ⊢
    exact makes.names_cases straight names

include noLinks straight makes

lemma isStore_of_makes (names : made.Names (orHere path) place) : IsStore made (orHere path) place := by
  rcases names_cases_of_makes straight makes names with before | hnone
  · exact (noLinks.isStore before).of_grows makes.grows
  · refine ⟨names, ?_⟩
    intro name target hlink
    rw [makes.grows.link_iff, Node.get?_append, hnone] at hlink
    cases hlink

/-- **While directories are made**, records are read as before. -/
theorem readsAlike_of_makes (acceptable : isAcceptable uuid = true) : ReadsAlike path uuid t made := by
  rw [← readsAlike_orHere acceptable]
  have hname := isName_recordName acceptable
  intro bytes
  constructor
  · intro hread
    obtain ⟨place, names⟩ := exists_names_of_readFile hname (orHere_ne_nil path) hread
    have store := isStore_of_makes noLinks straight makes names
    obtain ⟨hadmits, hfile⟩ := (store.readFile_iff hname).1 hread
    rw [makes.grows.file_iff] at hfile
    rcases names_cases_of_makes straight makes names with before | hnone
    · exact ((noLinks.isStore before).readFile_iff hname).2 ⟨hadmits, hfile⟩
    · rw [Node.get?_append, hnone] at hfile
      cases hfile
  · intro hread
    obtain ⟨place, names⟩ := exists_names_of_readFile hname (orHere_ne_nil path) hread
    have store := noLinks.isStore names
    obtain ⟨hadmits, hfile⟩ := (store.readFile_iff hname).1 hread
    exact ((store.of_grows makes.grows).readFile_iff hname).2 ⟨hadmits, (makes.grows.file_iff _ _).2 hfile⟩

end Making

/-! ### Writing and renaming -/

section Replacing

variable (noLinks : HasNoLinks t path) (straight : t.IsStraight path)
  (directory : t.makeDirectories path = (.ok (), made)) (acceptable : isAcceptable p.uuid = true)

include directory in
lemma makes_of_directory : Makes (ancestors path.length path) t made := by
  have makes := makeDirectories_makes t path
  rw [directory] at makes
  exact makes

include noLinks straight directory acceptable

/-- The temporary file is written in a store, and changes no other name there. -/
lemma exists_isStore_of_write {bytes : Bytes}
    (write : made.writeFile (Path.join path (temporaryName p.uuid)) bytes = .ok written) :
    ∃ place, IsStore made (orHere path) place ∧ IsStore written (orHere path) place ∧
      written.root.get? (place ++ [temporaryName p.uuid]) = some (.file bytes) ∧
      ∀ other, other ≠ temporaryName p.uuid →
        written.root.kindAt? (place ++ [other]) = made.root.kindAt? (place ++ [other]) := by
  have hname := isName_temporaryName acceptable
  rw [← writeFile_orHere hname] at write
  obtain ⟨place, names⟩ := exists_names_of_writeFile hname (orHere_ne_nil path) write
  have store := isStore_of_makes noLinks straight (makes_of_directory directory) names
  obtain ⟨store', hfile, -, hothers⟩ := store.writeFile hname write
  exact ⟨place, store, store', hfile, hothers⟩

/-- **While the temporary file is written**, records are read as before. -/
theorem readsAlike_of_write {bytes : Bytes}
    (write : made.writeFile (Path.join path (temporaryName p.uuid)) bytes = .ok written)
    (huuid : isAcceptable uuid = true) : ReadsAlike path uuid t written := by
  have hmade := readsAlike_of_makes noLinks straight (makes_of_directory directory) huuid
  refine hmade.trans ((readsAlike_orHere huuid).1 ?_)
  obtain ⟨place, store, store', -, hothers⟩ :=
    exists_isStore_of_write noLinks straight directory acceptable write
  refine store.readsAlike store' huuid ?_
  intro bytes
  rw [← Node.kindAt?_eq_file, hothers _ (recordName_ne_temporaryName _ _), Node.kindAt?_eq_file]

/-- **When the temporary file is renamed**, the record of the package is complete, and the others are read
as before. -/
theorem reads_of_rename {renamed : FileTree}
    (write : made.writeFile (Path.join path (temporaryName p.uuid)) (content p) = .ok written)
    (rename : written.rename (Path.join path (temporaryName p.uuid))
      (Path.join path (recordName p.uuid)) = .ok renamed) :
    renamed.readFile (Path.join path (recordName p.uuid)) = .ok (content p) ∧
      ∀ uuid, isAcceptable uuid = true → uuid ≠ p.uuid → ReadsAlike path uuid t renamed := by
  have htemporary := isName_temporaryName acceptable
  have hrecord := isName_recordName acceptable
  obtain ⟨place, -, store, hfile, -⟩ := exists_isStore_of_write noLinks straight directory acceptable write
  obtain ⟨store', hadmits, hplaced, -, -, hothers⟩ := store.rename htemporary hrecord
    (recordName_ne_temporaryName _ _).symm hfile (rename_orHere htemporary hrecord rename)
  constructor
  · rw [← readFile_orHere hrecord]
    exact (store'.readFile_iff hrecord).2 ⟨hadmits, hplaced⟩
  · intro uuid huuid hne
    have hwritten := readsAlike_of_write noLinks straight directory acceptable write huuid
    refine hwritten.trans ((readsAlike_orHere huuid).1 (store.readsAlike store' huuid ?_))
    have hother : recordName uuid ≠ recordName p.uuid := by
      intro heq
      exact hne (recordName_injective heq)
    intro bytes
    rw [← Node.kindAt?_eq_file, hothers _ (recordName_ne_temporaryName _ _) hother, Node.kindAt?_eq_file]

end Replacing

/-! ### Wherever it stops -/

/-- What the complete record of a package is read as. -/
def asComplete (path : Text) (p : Package) : Except Error Package :=
  match Package.read? p.toJson.wide with
  | some q => .ok q
  | none => .error (.malformed (Path.join path (recordName p.uuid)))

lemma load_of_content (acceptable : isAcceptable p.uuid = true)
    (h : t.readFile (Path.join path (recordName p.uuid)) = .ok (content p)) :
    load path p.uuid t = asComplete path p := by
  rw [load_of_bytes (recordPath_eq_ok_iff.2 ⟨acceptable, rfl⟩) h, content, Utf8.decode?_encode]
  unfold asComplete
  dsimp only
  cases Package.read? p.toJson.wide <;> rfl

/-- The complete record is read as the package just if the package is plain. -/
lemma asComplete_eq_ok_iff : asComplete path p = .ok p ↔ p.IsPlain := by
  unfold asComplete
  constructor
  · intro h
    split at h
    · next q hread =>
      obtain rfl := Except.ok.inj h
      exact Package.isPlain_of_readsBack hread (Package.readsBack_of_read?_wide hread)
    · cases h
  · intro plain
    rw [Package.read?_wide plain]

/-- Until a save has replaced the record of its package, every record is read as before. -/
lemma Stops.cases (noLinks : HasNoLinks t path) (straight : t.IsStraight path)
    (acceptable : isAcceptable p.uuid = true) (h : Stops path p t answer? t') :
    answer? ≠ some (.ok ()) ∧ (∀ uuid, isAcceptable uuid = true → ReadsAlike path uuid t t') ∨
      (∀ e, answer? ≠ some (.error e)) ∧
        t'.readFile (Path.join path (recordName p.uuid)) = .ok (content p) ∧
        ∀ uuid, isAcceptable uuid = true → uuid ≠ p.uuid → ReadsAlike path uuid t t' := by
  cases h with
  | making makes answered =>
    refine .inl ⟨?_, fun uuid huuid => readsAlike_of_makes noLinks straight makes huuid⟩
    rcases answered with rfl | rfl <;> simp
  | opening directory =>
    have makes := makes_of_directory directory
    exact .inl ⟨by simp, fun uuid huuid => readsAlike_of_makes noLinks straight makes huuid⟩
  | writing directory count write answered =>
    refine .inl ⟨?_, fun uuid huuid => readsAlike_of_write noLinks straight directory acceptable write huuid⟩
    rcases answered with rfl | rfl <;> simp
  | ready directory write answered =>
    refine .inl ⟨?_, fun uuid huuid => readsAlike_of_write noLinks straight directory acceptable write huuid⟩
    rcases answered with rfl | rfl <;> simp
  | replaced directory write rename answered =>
    refine .inr ⟨?_, reads_of_rename noLinks straight directory acceptable write rename⟩
    rcases answered with rfl | rfl <;> simp

/-- **Saving is atomic.** Wherever a save stops, by itself or interrupted, the records of the other uuids are
loaded as before, and that of its package is loaded as before or is complete: as before if an error is
answered, and complete if the save has worked. The complete record is loaded as the package just if the
package is plain. The directory of the store has no links in it, and the path does not lead up again, by two
dots, behind a name that is not there yet. -/
theorem save_atomic (noLinks : HasNoLinks t path) (straight : t.IsStraight path)
    (acceptable : isAcceptable p.uuid = true) :
    Stops path p t (some (save path p t).1) (save path p t).2 ∧
    (∀ answer? t', Stops path p t answer? t' →
      (∀ uuid, uuid ≠ p.uuid → load path uuid t' = load path uuid t) ∧
      (load path p.uuid t' = load path p.uuid t ∨ load path p.uuid t' = asComplete path p) ∧
      (∀ e, answer? = some (.error e) → load path p.uuid t' = load path p.uuid t) ∧
      (answer? = some (.ok ()) → load path p.uuid t' = asComplete path p)) ∧
    (asComplete path p = .ok p ↔ p.IsPlain) := by
  refine ⟨stops_save acceptable, ?_, asComplete_eq_ok_iff⟩
  intro answer? t' stops
  rcases stops.cases noLinks straight acceptable with ⟨unfinished, alike⟩ | ⟨worked, complete, alike⟩
  · have same : ∀ uuid, load path uuid t' = load path uuid t := fun uuid => load_congr (alike uuid)
    exact ⟨fun uuid _ => same uuid, .inl (same _), fun _ _ => same _, fun hok => absurd hok unfinished⟩
  · have new := load_of_content acceptable complete
    refine ⟨?_, .inr new, fun e he => absurd he (worked e), fun _ => new⟩
    intro uuid huuid
    exact load_congr fun hacceptable => alike uuid hacceptable huuid

/-- A path that names a store has no links in its directory. -/
lemma IsStore.hasNoLinks (h : IsStore t path place) : HasNoLinks t path := by
  intro found names
  obtain ⟨es, hes⟩ := h.names
  obtain ⟨es', hes'⟩ := names
  rw [orHere, if_neg (ne_nil_of_checkPath (checkPath_of_resolve hes)), hes] at hes'
  cases hes'
  exact h.noLinks

/-- A bag whose uuid ends like a temporary file. -/
def oldBag : Package where
  uuid := "u1.json.tmp"
  currentPath := "bag"
  location := "aips"
  shape := .uncompressed
  status := .staging
  attributes := []

/-- The bag when it is registered. -/
def registeredBag : Package :=
  oldBag.setIdentifier "r1"

/-- The directory of a store with some files. -/
def storeOf (files : List (Text × Bytes)) : FileTree where
  root := .directory [("records", .directory (files.map fun (name, bytes) => (name, .file bytes)))]
  working := []

lemma storeOf_isStore (files : List (Text × Bytes)) : IsStore (storeOf files) "/records" ["records"] where
  names := ⟨files.map fun (name, bytes) => (name, .file bytes), by cbv⟩
  noLinks := Node.not_link_of_files rfl

/-- A file is written beside the record of the bag. -/
lemma writeFile_storeOf (old new : Bytes) :
    (storeOf [("u1.json.tmp.json", old)]).writeFile "/records/u1.json.tmp.json.tmp" new =
      .ok (storeOf [("u1.json.tmp.json", old), ("u1.json.tmp.json.tmp", new)]) := by
  cbv

/-- Nothing leads up again behind a name that is not there. -/
lemma resolve_storeOf (files : List (Text × Bytes)) :
    (storeOf files).resolve "/a/../records" = .error .missing := by
  cbv

/-- The bag is registered, and saving it is interrupted after three bytes. The bag is loaded as it was. -/
theorem save_atomic_interrupted :
    let before := storeOf [("u1.json.tmp.json", content oldBag)]
    let after := storeOf [("u1.json.tmp.json", content oldBag),
      ("u1.json.tmp.json.tmp", (content registeredBag).take 3)]
    HasNoLinks before "/records" ∧ before.IsStraight "/records" ∧
      isAcceptable registeredBag.uuid = true ∧ Stops "/records" registeredBag before none after ∧
      (∀ uuid : Text, uuid ≠ "u1.json.tmp" → load "/records" uuid after = load "/records" uuid before) ∧
      load "/records" "u1.json.tmp" after = .ok oldBag ∧
      load "/records" "u1.json.tmp" (save "/records" registeredBag before).2 = .ok registeredBag := by
  intro before after
  have store : IsStore before "/records" ["records"] := storeOf_isStore _
  have acceptable : isAcceptable registeredBag.uuid = true := by decide
  have stops : Stops "/records" registeredBag before none after := by
    have hpath : Path.join "/records" (temporaryName registeredBag.uuid) =
        "/records/u1.json.tmp.json.tmp".toList := by
      decide
    refine .writing (store.names.makeDirectories rfl) 3 ?_ (.inl rfl)
    rw [hpath]
    exact writeFile_storeOf _ _
  obtain ⟨-, hstops, -⟩ := save_atomic store.hasNoLinks store.names.isStraight acceptable
  refine ⟨store.hasNoLinks, store.names.isStraight, acceptable, stops, ?_, ?_, ?_⟩
  · exact (hstops none after stops).1
  · decide +kernel
  · decide +kernel

/-- A store beside the directory `a`, which is not there. -/
def besideNothing : FileTree :=
  storeOf [("u2.json", content { oldBag with uuid := "u2" })]

/-- A bag with an attribute of which the last digit gets lost. -/
def driftingBag : Package :=
  { oldBag with uuid := "u1", attributes := [("ratio", .number (.double ⟨false, 6031164671306714, -131⟩))] }

/-- **Not every record is found before the directory is made**, and not every complete record is read as the
package that was saved. The path of the first store leads up again behind `a`: when `a` is made, the other
record is found. In the second one a double drifts. -/
theorem save_not_atomic :
    (HasNoLinks besideNothing "/a/../records" ∧
      (save "/a/../records" { oldBag with uuid := "u1" } besideNothing).1 = .ok () ∧
      load "/a/../records" "u2" besideNothing = .error (.notFound "u2" "/a/../records/u2.json") ∧
      load "/a/../records" "u2" (save "/a/../records" { oldBag with uuid := "u1" } besideNothing).2 =
        .ok { oldBag with uuid := "u2" }) ∧
    (HasNoLinks (storeOf []) "/records" ∧
      (save "/records" driftingBag (storeOf [])).1 = .ok () ∧
      load "/records" "u1" (save "/records" driftingBag (storeOf [])).2 ≠ load "/records" "u1" (storeOf []) ∧
      load "/records" "u1" (save "/records" driftingBag (storeOf [])).2 ≠ .ok driftingBag) := by
  have missing : HasNoLinks besideNothing "/a/../records" := by
    rintro place ⟨es, hes⟩
    rw [orHere, if_neg (by decide), besideNothing, resolve_storeOf] at hes
    cases hes
  refine ⟨⟨missing, ?_, ?_, ?_⟩, (storeOf_isStore []).hasNoLinks, ?_, ?_, ?_⟩
  all_goals decide +kernel

end Custodian.RecordStore
