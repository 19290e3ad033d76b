import Custodian.Proofs.FileTree.SameFiles
import Custodian.Proofs.Package.RoundTrip
import Custodian.Proofs.Path.Extension
import Custodian.Proofs.Text.Utf8
import Custodian.RecordStore

/-!
# Records

The records of a store are the files of one directory. Reading a record depends on nothing but the file of
its name (`load_iff`).

* `save_cases`: what a save does, as far as it gets.
* `IsStore.save_frame`: a save changes no files but those of its package, whatever comes of it.
* `IsStore.save`: saving a package puts its record there, and changes no other record.
* `load_save`: a package that was saved is read back as it was.
-/

namespace Custodian

namespace RecordStore

open FileTree

/-! ### Names of records -/

/-- The name of the record of a package. -/
def recordName (uuid : Text) : Text :=
  uuid ++ recordEnding

def temporaryEnding : Text := ".tmp"

/-- The name of the temporary file of a record. -/
def temporaryName (uuid : Text) : Text :=
  recordName uuid ++ temporaryEnding

lemma recordName_injective {u v : Text} (h : recordName u = recordName v) : u = v :=
  List.append_cancel_right h

lemma recordName_ne_temporaryName (u v : Text) : recordName u ≠ temporaryName v := by
  intro h
  have hlast := congrArg List.getLast? h
  simp [recordName, temporaryName, recordEnding, temporaryEnding, List.getLast?_append] at hlast

lemma isName_of_head {c : Char} {rest : Text} (hc : c ≠ '.') (whole : '/' ∉ c :: rest) :
    IsName (c :: rest) where
  busy := by simp [Path.isIdle, hc]
  named := by simp [hc]
  whole := whole

lemma isName_append {uuid : Text} (h : isAcceptable uuid = true) {ending : Text} (hending : '/' ∉ ending) :
    IsName (uuid ++ ending) := by
  simp only [isAcceptable, Bool.and_eq_true, Bool.not_eq_true', List.contains_eq_mem,
    decide_eq_false_iff_not, decide_eq_true_eq] at h
  obtain ⟨⟨⟨hempty, hslash⟩, -⟩, hdot⟩ := h
  cases uuid with
  | nil => cases hempty
  | cons c uuid =>
    refine isName_of_head (by simpa using hdot) ?_
    intro hmem
    rcases List.mem_append.1 (List.cons_append ▸ hmem) with hmem | hmem
    · exact hslash hmem
    · exact hending hmem

lemma isName_recordName {uuid : Text} (h : isAcceptable uuid = true) : IsName (recordName uuid) :=
  isName_append h (by decide)

lemma isName_temporaryName {uuid : Text} (h : isAcceptable uuid = true) :
    IsName (temporaryName uuid) := by
  rw [temporaryName, recordName, List.append_assoc]
  exact isName_append h (by decide)

lemma recordPath_eq_ok_iff {directory uuid path : Text} : recordPath directory uuid = .ok path ↔
    isAcceptable uuid = true ∧ path = Path.join directory (recordName uuid) := by
  unfold recordPath
  split
  · next h =>
    rw [Except.ok.injEq]
    constructor
    · intro hpath
      exact ⟨h, hpath.symm⟩
    · rintro ⟨-, hpath⟩
      exact hpath.symm
  · next h =>
    constructor
    · rintro ⟨⟩
    · rintro ⟨hacceptable, -⟩
      exact absurd hacceptable h

lemma recordPath_eq_error_iff {directory uuid : Text} {e : Error} :
    recordPath directory uuid = .error e ↔ isAcceptable uuid = false ∧ e = .badUuid uuid := by
  unfold recordPath
  split
  · next h => simp [h]
  · next h => simp [h, eq_comm]

lemma stem_recordName {uuid : Text} (h : isAcceptable uuid = true) : Path.stem (recordName uuid) = uuid := by
  have hne : uuid ≠ [] := by
    rintro rfl
    cases h
  exact Path.stem_append hne (by decide)

/-- The temporary file has the name of the record with another extension. -/
lemma temporaryPath_join {uuid : Text} (h : isAcceptable uuid = true) (directory : Text) :
    temporaryPath (Path.join directory (recordName uuid)) = Path.join directory (temporaryName uuid) := by
  have hname : Path.stem (recordName uuid) ++ '.' :: temporaryExtension = temporaryName uuid := by
    rw [stem_recordName h, temporaryName, recordName, List.append_assoc]
    rfl
  have relative := (isName_temporaryName h).isRelative
  rw [← hname] at relative
  rw [temporaryPath, Path.withExtension_join (isName_recordName h) (by decide) relative, hname]

/-- The path of the temporary file goes on where that of the record ends. -/
lemma join_temporaryName {uuid : Text} (h : isAcceptable uuid = true) (directory : Text) :
    Path.join directory (temporaryName uuid) =
      Path.join directory (recordName uuid) ++ temporaryEnding := by
  simp only [Path.join, (isName_recordName h).isRelative, (isName_temporaryName h).isRelative,
    Bool.false_eq_true, if_false]
  split <;> simp [temporaryName]

/-! ### Reading -/

/-- The path names a directory, at a place, that has no links in it. -/
structure IsStore (t : FileTree) (path : Text) (place : Place) : Prop where
  names : t.Names path place
  noLinks : ∀ name target, t.root.get? (place ++ [name]) ≠ some (.link target)

/-- Whether a name in a directory is short enough to be asked for. -/
def Admits (path name : Text) : Prop :=
  checkPath (Path.join path name) = .ok () ∧ Utf8.size name ≤ longestName

section Reading

variable {t t' : FileTree} {path : Text} {place : Place}

lemma IsStore.admits_of_resolve (h : IsStore t path place) {name : Text} (hname : IsName name)
    {target : Target} (hresolve : t.resolve (Path.join path name) = .ok target) : Admits path name := by
  have hcheck := checkPath_of_resolve hresolve
  rw [h.names.resolve_join hname hcheck (h.noLinks name), lookIn] at hresolve
  split at hresolve
  · cases hresolve
  · next hshort => exact ⟨hcheck, Nat.not_lt.1 hshort⟩

lemma IsStore.readFile_iff (h : IsStore t path place) {name : Text} (hname : IsName name)
    {bytes : Bytes} : t.readFile (Path.join path name) = .ok bytes ↔
      Admits path name ∧ t.root.get? (place ++ [name]) = some (.file bytes) := by
  constructor
  · intro hread
    unfold readFile at hread
    rcases hresolve : t.resolve (Path.join path name) with fault | target <;> rw [hresolve] at hread
    · cases hread
    have hadmits := h.admits_of_resolve hname hresolve
    refine ⟨hadmits, ?_⟩
    rw [h.names.resolve_join hname hadmits.1 (h.noLinks name)] at hresolve
    rcases target with ⟨found, content | link | es⟩ | ⟨found, asDirectory⟩
    · cases hread
      exact (found_of_lookIn hresolve).2
    · cases hread
    · cases hread
    · cases hread
  · rintro ⟨⟨hcheck, hshort⟩, hfile⟩
    rw [readFile, h.names.resolve_join hname hcheck (h.noLinks name), lookIn,
      if_neg (Nat.not_lt.2 hshort), hfile]
    rfl

lemma load_of_readFile {uuid record : Text} (hrecord : recordPath path uuid = .ok record) {fault : Fault}
    (hread : t.readFile record = .error fault) : load path uuid t = .error (.notFound uuid record) := by
  unfold load
  rw [hrecord]
  dsimp only [bind, Except.bind]
  rw [hread]

lemma load_of_recordPath {uuid : Text} {e : Error} (hrecord : recordPath path uuid = .error e) :
    load path uuid t = .error e := by
  unfold load
  rw [hrecord]
  rfl

/-- What is loaded if the record can be read. -/
lemma load_of_bytes {uuid record : Text} (hrecord : recordPath path uuid = .ok record) {bytes : Bytes}
    (hread : t.readFile record = .ok bytes) : load path uuid t =
      match Utf8.decode? bytes with
      | none => .error (.notFound uuid record)
      | some text =>
        match Package.read? text with
        | none => .error (.malformed record)
        | some p => .ok p := by
  rcases hdecode : Utf8.decode? bytes with _ | text
  · simp only [load, hrecord, hread, hdecode, bind, Except.bind]
  · rcases hp : Package.read? text with _ | p <;>
      simp only [load, hrecord, hread, hdecode, hp, bind, Except.bind]

lemma load_eq_ok_iff {uuid : Text} {p : Package} : load path uuid t = .ok p ↔
    isAcceptable uuid = true ∧ ∃ bytes, t.readFile (Path.join path (recordName uuid)) = .ok bytes ∧
      ofContent? bytes = some p := by
  unfold load
  cases hpath : recordPath path uuid with
  | error e =>
    apply iff_of_false
    · rintro ⟨⟩
    · rintro ⟨hacceptable, -⟩
      rw [recordPath_eq_ok_iff.2 ⟨hacceptable, rfl⟩] at hpath
      cases hpath
  | ok record =>
    obtain ⟨hacceptable, rfl⟩ := recordPath_eq_ok_iff.1 hpath
    dsimp only [bind, Except.bind]
    rcases t.readFile (Path.join path (recordName uuid)) with fault | bytes
    · simp
    · cases hdecode : Utf8.decode? bytes with
      | none => simp [ofContent?, hdecode]
      | some text => cases hread : Package.read? text <;> simp [ofContent?, hdecode, hread, hacceptable]

/-- **A record is the file of its name.** -/
theorem IsStore.load_iff (h : IsStore t path place) {uuid : Text} {p : Package} :
    load path uuid t = .ok p ↔ isAcceptable uuid = true ∧ Admits path (recordName uuid) ∧
      ∃ bytes, t.root.get? (place ++ [recordName uuid]) = some (.file bytes) ∧
        ofContent? bytes = some p := by
  rw [load_eq_ok_iff]
  constructor
  · rintro ⟨hacceptable, bytes, hread, hp⟩
    obtain ⟨hadmits, hfile⟩ := (h.readFile_iff (isName_recordName hacceptable)).1 hread
    exact ⟨hacceptable, hadmits, bytes, hfile, hp⟩
  · rintro ⟨hacceptable, hadmits, bytes, hfile, hp⟩
    exact ⟨hacceptable, bytes,
      (h.readFile_iff (isName_recordName hacceptable)).2 ⟨hadmits, hfile⟩, hp⟩

lemma IsStore.load_congr (h : IsStore t path place) (h' : IsStore t' path place) {uuid : Text}
    (same : ∀ bytes, t'.root.get? (place ++ [recordName uuid]) = some (.file bytes) ↔
      t.root.get? (place ++ [recordName uuid]) = some (.file bytes)) (p : Package) :
    load path uuid t' = .ok p ↔ load path uuid t = .ok p := by
  simp only [h.load_iff, h'.load_iff, same]

end Reading

/-! ### Saving -/

section Saving

variable {t t' : FileTree} {path : Text} {place : Place} {p : Package}

lemma IsStore.of_grows (h : IsStore t path place) (grows : Grows t t') : IsStore t' path place where
  names := h.names.keep grows.keepsWays grows.working
  noLinks name target hlink := h.noLinks name target ((grows.link_iff _ target).1 hlink)

/-- A directory in which each name is as before, or no link, is still a store. -/
lemma IsStore.of_kinds (h : IsStore t path place) (names : t'.Names path place)
    (kinds : ∀ name, t'.root.kindAt? (place ++ [name]) = t.root.kindAt? (place ++ [name]) ∨
      ∀ target, t'.root.get? (place ++ [name]) ≠ some (.link target)) : IsStore t' path place where
  names := names
  noLinks name target hlink := by
    rcases kinds name with same | hno
    · rw [← Node.kindAt?_eq_link, same, Node.kindAt?_eq_link] at hlink
      exact h.noLinks name target hlink
    · exact hno target hlink

lemma prefix_sibling_iff {name other : Text} : place ++ [name] <+: place ++ [other] ↔ name = other := by
  rw [List.prefix_append_right_inj]
  simp

/-- Writing a file of a store changes no other file. -/
lemma IsStore.writeFile (h : IsStore t path place) {name : Text} (hname : IsName name) {bytes : Bytes}
    (hwrite : t.writeFile (Path.join path name) bytes = .ok t') :
    IsStore t' path place ∧ t'.root.get? (place ++ [name]) = some (.file bytes) ∧
      SameFilesBut [place ++ [name]] t t' ∧ ∀ other, other ≠ name →
        t'.root.kindAt? (place ++ [other]) = t.root.kindAt? (place ++ [other]) := by
  obtain ⟨found, hput, hfound⟩ := writeFile_cases hwrite
  obtain ⟨rfl, hfree⟩ : found = place ++ [name] ∧ IsFree t.root (place ++ [name]) := by
    rcases hfound with ⟨old, hold⟩ | habsent
    · rw [h.names.resolve_join hname (checkPath_of_resolve hold) (h.noLinks name)] at hold
      obtain ⟨hplace, hfile⟩ := found_of_lookIn hold
      exact ⟨hplace, isFree_of_file hfile⟩
    · rw [h.names.resolve_join hname (checkPath_of_resolve habsent) (h.noLinks name)] at habsent
      obtain ⟨hplace, hnone⟩ := absent_of_lookIn habsent
      exact ⟨hplace, isFree_of_none hnone⟩
  obtain ⟨hput', hworking⟩ := put_eq_ok_iff.1 hput
  have hothers : ∀ other, other ≠ name →
      t'.root.kindAt? (place ++ [other]) = t.root.kindAt? (place ++ [other]) := by
    intro other hother
    apply Node.kindAt?_of_put? hput'
    rw [prefix_sibling_iff]
    exact Ne.symm hother
  have hfile : t'.root.get? (place ++ [name]) = some (.file bytes) := by
    simpa using Node.get?_of_put? hput' []
  have hnames : t'.Names path place := h.names.keep (hfree.keepsWays_put hput) hworking
  refine ⟨h.of_kinds hnames ?_, hfile, hfree.sameFilesBut_put hput, hothers⟩
  intro other
  by_cases hother : other = name
  · exact .inr fun target => by simp [hother, hfile]
  · exact .inl (hothers other hother)

lemma IsStore.entry_eq (h : IsStore t path place) {name : Text} (hname : IsName name) {e : Entry}
    (hentry : t.entry (Path.join path name) = .ok e) : e = ⟨place, name, false⟩ ∧ Admits path name := by
  have hcheck := checkPath_of_entry hentry
  rw [h.names.entry_join hname hcheck] at hentry
  split at hentry
  · cases hentry
  · next hshort =>
    cases hentry
    exact ⟨rfl, hcheck, Nat.not_lt.1 hshort⟩

/-- What may be replaced by a file in a store is free. -/
lemma IsStore.isFree_of_mayReplace (h : IsStore t path place) {name : Text} {bytes : Bytes}
    (hreplace : mayReplace (.file bytes) (t.root.get? (place ++ [name])) = .ok ()) :
    IsFree t.root (place ++ [name]) := by
  rcases hold : t.root.get? (place ++ [name]) with _ | (old | link | es)
  · exact isFree_of_none hold
  · exact isFree_of_file hold
  · exact absurd hold (h.noLinks name link)
  · exact absurd hold (not_directory_of_mayReplace hreplace es)

/-- What a renaming within a directory does to the names there. -/
lemma siblings_of_renamed {source target : Text} (hne : source ≠ target) {node : Node}
    (hput : FileTree.put { t with root := t.root.erase (place ++ [source]) } (place ++ [target]) node =
      .ok t') :
    t'.root.get? (place ++ [target]) = some node ∧ t'.root.get? (place ++ [source]) = none ∧
      ∀ other, other ≠ source → other ≠ target →
        t'.root.kindAt? (place ++ [other]) = t.root.kindAt? (place ++ [other]) := by
  have hput' := (put_eq_ok_iff.1 hput).1
  refine ⟨by simpa using Node.get?_of_put? hput' [], ?_, ?_⟩
  · have hsibling : ¬place ++ [target] <+: place ++ [source] := by
      rw [prefix_sibling_iff]
      exact Ne.symm hne
    rw [← Node.kindAt?_eq_none, Node.kindAt?_of_put? hput' hsibling]
    exact kindAt?_erase_below (by simp) (List.prefix_refl _)
  · intro other hsource htarget
    apply kindAt?_of_renamed hput <;> rw [prefix_sibling_iff]
    · exact Ne.symm hsource
    · exact Ne.symm htarget

/-- Renaming a file of a store takes it away, and changes no file but these two. -/
lemma IsStore.rename (h : IsStore t path place) {source target : Text} (hsource : IsName source)
    (htarget : IsName target) (hne : source ≠ target) {bytes : Bytes}
    (hfile : t.root.get? (place ++ [source]) = some (.file bytes))
    (hrename : t.rename (Path.join path source) (Path.join path target) = .ok t') :
    IsStore t' path place ∧ Admits path target ∧
      t'.root.get? (place ++ [target]) = some (.file bytes) ∧
      t'.root.get? (place ++ [source]) = none ∧
      SameFilesBut [place ++ [source], place ++ [target]] t t' ∧
      ∀ other, other ≠ source → other ≠ target →
        t'.root.kindAt? (place ++ [other]) = t.root.kindAt? (place ++ [other]) := by
  obtain ⟨a, b, node, ha, hb, hnode, hcases⟩ := rename_cases hrename
  obtain ⟨rfl, -⟩ := h.entry_eq hsource ha
  obtain ⟨rfl, hadmits⟩ := h.entry_eq htarget hb
  simp only [Entry.place] at hnode hcases
  obtain rfl : node = .file bytes := Option.some.inj (hnode.symm.trans hfile)
  rcases hcases with ⟨hsame, -⟩ | ⟨hreplace, hput⟩
  · exact absurd (List.append_cancel_left hsame) (by simpa using hne)
  · have hfree := h.isFree_of_mayReplace hreplace
    obtain ⟨hplaced, hgone, hothers⟩ := siblings_of_renamed hne hput
    have hnames : t'.Names path place := h.names.keep
      ((isFree_of_file hnode).keepsWays_rename hfree hput) (put_eq_ok_iff.1 hput).2
    have hsame := sameFilesBut_of_renamed (by simp) hnode hfree hput
    refine ⟨h.of_kinds hnames ?_, hadmits, hplaced, hgone, hsame, hothers⟩
    -- a file is at the target and nothing at the source
    intro other
    by_cases htarget : other = target
    · exact .inr fun link => by simp [htarget, hplaced]
    by_cases hsource : other = source
    · exact .inr fun link => by simp [hsource, hgone]
    · exact .inl (hothers other hsource htarget)

/-- What a save does: it refuses the uuid, or it makes the directory, writes the temporary file and
renames it, as far as it gets. -/
lemma save_cases {outcome : Except Error Unit} (hsave : save path p t = (outcome, t')) :
    (isAcceptable p.uuid = false ∧ outcome = .error (.badUuid p.uuid) ∧ t' = t) ∨
      isAcceptable p.uuid = true ∧ ∃ made, made = (t.makeDirectories path).2 ∧
        (outcome = .error (.directoryNotMade path) ∧ t' = made ∨
          outcome = .error .notWritten ∧ t' = made ∨
          ∃ written, made.writeFile (Path.join path (temporaryName p.uuid)) (content p) = .ok written ∧
            (outcome = .error .notRenamed ∧ t' = written ∨
              outcome = .ok () ∧ written.rename (Path.join path (temporaryName p.uuid))
                (Path.join path (recordName p.uuid)) = .ok t')) := by
  unfold save at hsave
  rcases hrecord : recordPath path p.uuid with e | record <;> rw [hrecord] at hsave
  · cases hsave
    obtain ⟨hbad, rfl⟩ := recordPath_eq_error_iff.1 hrecord
    exact .inl ⟨hbad, rfl, rfl⟩
  obtain ⟨hacceptable, rfl⟩ := recordPath_eq_ok_iff.1 hrecord
  refine .inr ⟨hacceptable, (t.makeDirectories path).2, rfl, ?_⟩
  rcases hmade : t.makeDirectories path with ⟨fault | ⟨⟩, made⟩ <;> rw [hmade] at hsave <;>
    dsimp only at hsave ⊢
  · cases hsave
    exact .inl ⟨rfl, rfl⟩
  rw [temporaryPath_join hacceptable] at hsave
  rcases hwritten : made.writeFile (Path.join path (temporaryName p.uuid)) (content p) with
    fault | written <;> rw [hwritten] at hsave <;> dsimp only at hsave
  · cases hsave
    exact .inr (.inl ⟨rfl, rfl⟩)
  refine .inr (.inr ⟨written, rfl, ?_⟩)
  rcases hrenamed : written.rename (Path.join path (temporaryName p.uuid))
    (Path.join path (recordName p.uuid)) with fault | renamed <;> rw [hrenamed] at hsave
  · cases hsave
    exact .inl ⟨rfl, rfl⟩
  · cases hsave
    exact .inr ⟨rfl, rfl⟩

/-- The places of the record of a package and of its temporary file. -/
def ownPlaces (place : Place) (uuid : Text) : List Place :=
  [place ++ [temporaryName uuid], place ++ [recordName uuid]]

/-- The record of a package is no file of another one. -/
lemma record_iff_of_sameFilesBut {uuid other : Text} (h : SameFilesBut (ownPlaces place uuid) t t')
    (hother : other ≠ uuid) (bytes : Bytes) :
    t'.root.get? (place ++ [recordName other]) = some (.file bytes) ↔
      t.root.get? (place ++ [recordName other]) = some (.file bytes) := by
  have hrecord : recordName other ≠ recordName uuid := by
    intro heq
    exact hother (recordName_injective heq)
  have htemporary : recordName other ≠ temporaryName uuid := recordName_ne_temporaryName _ _
  exact h _ (by simp [ownPlaces, hrecord, htemporary]) bytes

/-- The temporary file is no record. -/
lemma record_iff_of_temporary {uuid : Text} (h : SameFilesBut [place ++ [temporaryName uuid]] t t')
    (bytes : Bytes) : t'.root.get? (place ++ [recordName uuid]) = some (.file bytes) ↔
      t.root.get? (place ++ [recordName uuid]) = some (.file bytes) :=
  h _ (by simp [recordName_ne_temporaryName]) bytes

/-- A temporary file that is written and renamed is the record then, and changes no other file. -/
lemma IsStore.replace (h : IsStore t path place) (hacceptable : isAcceptable p.uuid = true)
    {written : FileTree}
    (hwritten : t.writeFile (Path.join path (temporaryName p.uuid)) (content p) = .ok written)
    (hrenamed : written.rename (Path.join path (temporaryName p.uuid))
      (Path.join path (recordName p.uuid)) = .ok t') :
    IsStore t' path place ∧ Admits path (recordName p.uuid) ∧
      t'.root.get? (place ++ [recordName p.uuid]) = some (.file (content p)) ∧
      t'.root.get? (place ++ [temporaryName p.uuid]) = none ∧
      SameFilesBut (ownPlaces place p.uuid) t t' := by
  have hrecordName := isName_recordName hacceptable
  have htemporary := isName_temporaryName hacceptable
  obtain ⟨hstore, hfile, hsame, -⟩ := h.writeFile htemporary hwritten
  obtain ⟨hstore', hadmits, hfile', hgone, hsame', -⟩ := hstore.rename htemporary hrecordName
    (recordName_ne_temporaryName _ _).symm hfile hrenamed
  exact ⟨hstore', hadmits, hfile', hgone, (hsame.mono (by simp [ownPlaces])).trans hsame'⟩

/-- **A save** changes no files but the record of its package and the temporary file, and the record only
if it works. -/
theorem IsStore.save_frame (h : IsStore t path place) {outcome : Except Error Unit}
    (hsave : save path p t = (outcome, t')) :
    IsStore t' path place ∧ SameFilesBut (ownPlaces place p.uuid) t t' ∧
      (SameFilesBut [place ++ [temporaryName p.uuid]] t t' ∨
        isAcceptable p.uuid = true ∧ Admits path (recordName p.uuid) ∧
          t'.root.get? (place ++ [recordName p.uuid]) = some (.file (content p))) := by
  rcases save_cases hsave with ⟨-, -, rfl⟩ | ⟨hacceptable, made, rfl, hcases⟩
  · exact ⟨h, .refl _ _, .inl (.refl _ _)⟩
  have grows := makeDirectories_grows t path
  have hmade := h.of_grows grows
  rcases hcases with ⟨-, rfl⟩ | ⟨-, rfl⟩ | ⟨written, hwritten, hrenamed⟩
  · exact ⟨hmade, grows.sameFilesBut _, .inl (grows.sameFilesBut _)⟩
  · exact ⟨hmade, grows.sameFilesBut _, .inl (grows.sameFilesBut _)⟩
  rcases hrenamed with ⟨-, rfl⟩ | ⟨-, hrenamed⟩
  · obtain ⟨hstore, -, hsame, -⟩ := hmade.writeFile (isName_temporaryName hacceptable) hwritten
    have hall := (grows.sameFilesBut _).trans hsame
    exact ⟨hstore, hall.mono (by simp [ownPlaces]), .inl hall⟩
  · obtain ⟨hstore, hadmits, hfile, -, hsame⟩ := hmade.replace hacceptable hwritten hrenamed
    exact ⟨hstore, (grows.sameFilesBut _).trans hsame, .inr ⟨hacceptable, hadmits, hfile⟩⟩

/-- **Saving a package** puts its record into the store and leaves no temporary file of it, and changes no
other record. -/
theorem IsStore.save (h : IsStore t path place) (hsave : save path p t = (.ok (), t')) :
    IsStore t' path place ∧ isAcceptable p.uuid = true ∧ Admits path (recordName p.uuid) ∧
      t'.root.get? (place ++ [recordName p.uuid]) = some (.file (content p)) ∧
      t'.root.get? (place ++ [temporaryName p.uuid]) = none ∧
      ∀ uuid, uuid ≠ p.uuid → ∀ bytes,
        t'.root.get? (place ++ [recordName uuid]) = some (.file bytes) ↔
          t.root.get? (place ++ [recordName uuid]) = some (.file bytes) := by
  rcases save_cases hsave with
    ⟨-, ⟨⟩, -⟩ | ⟨hacceptable, made, rfl, ⟨⟨⟩, -⟩ | ⟨⟨⟩, -⟩ | ⟨written, hwritten, ⟨⟨⟩, -⟩ | ⟨-, hrenamed⟩⟩⟩
  have grows := makeDirectories_grows t path
  obtain ⟨hstore, hadmits, hfile, hgone, hsame⟩ :=
    (h.of_grows grows).replace hacceptable hwritten hrenamed
  refine ⟨hstore, hacceptable, hadmits, hfile, hgone, ?_⟩
  intro uuid huuid bytes
  rw [record_iff_of_sameFilesBut hsame huuid, grows.file_iff]

lemma ofContent?_content (plain : p.IsPlain) : ofContent? (content p) = some p := by
  rw [ofContent?, content, Utf8.decode?_encode, Option.bind_some, Package.read?_wide plain]

/-- **A package that was saved is read back.** -/
theorem IsStore.load_save (h : IsStore t path place) (plain : p.IsPlain)
    (hsave : RecordStore.save path p t = (.ok (), t')) : load path p.uuid t' = .ok p := by
  obtain ⟨hstore, hacceptable, hadmits, hfile, -, -⟩ := h.save hsave
  exact hstore.load_iff.2 ⟨hacceptable, hadmits, content p, hfile, ofContent?_content plain⟩

end Saving

/-! ### Sound stores -/

/-- A store in which each record is that of the uuid it is named for, and holds no numbers in its
attributes but integers. -/
structure IsSound (path : Text) (t : FileTree) : Prop where
  store : ∃ place, IsStore t path place
  own : ∀ uuid p, load path uuid t = .ok p → p.uuid = uuid
  integers : ∀ uuid p, load path uuid t = .ok p → (Json.Value.object p.attributes).hasIntegers = true

/-- Two trees have the same records. -/
def SameRecords (path : Text) (t t' : FileTree) : Prop :=
  ∀ uuid p, load path uuid t' = .ok p ↔ load path uuid t = .ok p

section Sound

variable {t t' : FileTree} {path : Text} {place : Place} {p : Package}

lemma IsSound.isPlain (h : IsSound path t) {uuid : Text} (hload : load path uuid t = .ok p) :
    p.IsPlain := by
  obtain ⟨-, bytes, -, hbytes⟩ := load_eq_ok_iff.1 hload
  obtain ⟨text, -, hread⟩ := Option.bind_eq_some_iff.1 hbytes
  exact Package.isPlain_of_read? hread (h.integers uuid p hload)

lemma IsSound.congr (h : IsSound path t) (store : IsStore t' path place)
    (same : SameRecords path t t') : IsSound path t' where
  store := ⟨place, store⟩
  own uuid p hload := h.own uuid p ((same uuid p).1 hload)
  integers uuid p hload := h.integers uuid p ((same uuid p).1 hload)

lemma IsSound.of_grows (h : IsSound path t) (grows : Grows t t') :
    IsSound path t' ∧ SameRecords path t t' := by
  obtain ⟨place, store⟩ := h.store
  have store' := store.of_grows grows
  have same : SameRecords path t t' := by
    intro uuid p
    exact store.load_congr store' (fun bytes => grows.file_iff _ bytes) p
  exact ⟨h.congr store' same, same⟩

/-- A renaming that spares the store changes no records. -/
lemma IsSound.of_renamed (h : IsSound path t) {a b : Place} {node : Node} (ha : a ≠ []) (hb : b ≠ [])
    (spares : ∀ place, t.Names path place → t.Spares path place a b)
    (hput : FileTree.put { t with root := t.root.erase a } b node = .ok t') :
    IsSound path t' ∧ SameRecords path t t' := by
  obtain ⟨place, store⟩ := h.store
  have hspares := spares place store.names
  have hkinds := hspares.kindAt?_of_renamed ha hb hput
  have store' : IsStore t' path place :=
    store.of_kinds (hspares.names_of_renamed ha hb hput) fun name => .inl (hkinds _)
  have same : SameRecords path t t' := by
    intro uuid p
    apply store.load_congr store'
    intro bytes
    rw [← Node.kindAt?_eq_file, hkinds, Node.kindAt?_eq_file]
  exact ⟨h.congr store' same, same⟩

/-- **Saving keeps a store sound.** The package is read back as it was saved, and the other records are
as before. -/
theorem IsSound.save (h : IsSound path t) (plain : p.IsPlain)
    (integers : (Json.Value.object p.attributes).hasIntegers = true)
    (hsave : RecordStore.save path p t = (.ok (), t')) :
    IsSound path t' ∧ load path p.uuid t' = .ok p ∧
      ∀ uuid, uuid ≠ p.uuid → ∀ q, load path uuid t' = .ok q ↔ load path uuid t = .ok q := by
  obtain ⟨place, store⟩ := h.store
  obtain ⟨store', -, -, -, -, hothers⟩ := store.save hsave
  have hself := store.load_save plain hsave
  have hrest : ∀ uuid, uuid ≠ p.uuid → ∀ q, load path uuid t' = .ok q ↔ load path uuid t = .ok q := by
    intro uuid huuid q
    exact store.load_congr store' (hothers uuid huuid) q
  -- what is read now was saved just now or is what was read before
  have hcases : ∀ uuid q, load path uuid t' = .ok q →
      (uuid = p.uuid ∧ q = p) ∨ load path uuid t = .ok q := by
    intro uuid q hload
    by_cases huuid : uuid = p.uuid
    · subst huuid
      exact .inl ⟨rfl, Except.ok.inj (hload.symm.trans hself)⟩
    · exact .inr ((hrest uuid huuid q).1 hload)
  refine ⟨⟨⟨place, store'⟩, ?_, ?_⟩, hself, hrest⟩
  · intro uuid q hload
    rcases hcases uuid q hload with ⟨rfl, rfl⟩ | hload
    · rfl
    · exact h.own uuid q hload
  · intro uuid q hload
    rcases hcases uuid q hload with ⟨rfl, rfl⟩ | hload
    · exact integers
    · exact h.integers uuid q hload

end Sound

end RecordStore

end Custodian
