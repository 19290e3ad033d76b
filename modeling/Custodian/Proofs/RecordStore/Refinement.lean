import Custodian.Proofs.RecordStore.Progress

/-!
# A store as a map

A store that begins empty behaves as a map from uuids to packages: what is loaded is what was saved last
under the uuid, whatever was called in between. Between any two calls the records are the packages of the
map (`Abstracts`), and each call keeps it so (`Abstracts.save`).

* `Abstracts.load_eq`: what is loaded is the package of the map, or an error if there is none.
* `isReady_runAll`: after any calls, saving still works.
* `refines_map`: after any calls, the map holds what was saved last.
-/

namespace Custodian.RecordStore

open FileTree

/-! ### Calls -/

/-- A package that was read from a text without other numbers than integers in its attributes. Its status
and its identifier may have been changed since. -/
inductive FromText : Package → Prop
  | read {text : Text} {p : Package} (read : Package.read? text = some p)
      (integers : (Json.Value.object p.attributes).hasIntegers = true) : FromText p
  | status {p : Package} (h : FromText p) (status : Status) : FromText { p with status }
  | identifier {p : Package} (h : FromText p) (id : Text) : FromText (p.setIdentifier id)
  | noIdentifier {p : Package} (h : FromText p) :
      FromText { p with attributes := Table.erase Package.identifierName p.attributes }

lemma FromText.isPlain {p : Package} (h : FromText p) : p.IsPlain := by
  induction h with
  | read read integers => exact Package.isPlain_of_read? read integers
  | status h status ih => exact ih
  | identifier h id ih => exact ih.setIdentifier id
  | noIdentifier h ih => exact Json.Value.IsPlain.erase ih Package.identifierName

/-- A call on a store. -/
inductive Call where
  | save (p : Package)
  | load (uuid : Text)

/-- What a call answers. -/
inductive Answer where
  | saved (outcome : Except Error Unit)
  | loaded (outcome : Except Error Package)

/-- A call and its answer. -/
abbrev Turn := Call × Answer

def Call.run (path : Text) : Call → FileTree → Answer × FileTree
  | .save p, t => (.saved (RecordStore.save path p t).1, (RecordStore.save path p t).2)
  | .load uuid, t => (.loaded (RecordStore.load path uuid t), t)

/-- Some calls, one after the other. -/
def runAll (path : Text) : List Call → FileTree → List Turn × FileTree
  | [], t => ([], t)
  | call :: calls, t =>
    let (answer, t) := call.run path t
    let (turns, t) := runAll path calls t
    ((call, answer) :: turns, t)

/-- The package that a turn has saved under a uuid. -/
def saved? (uuid : Text) : Turn → Option Package
  | (.save p, .saved (.ok ())) => if p.uuid = uuid then some p else none
  | _ => none

/-- The package that was saved last under a uuid. -/
def lastSaved? (turns : List Turn) (uuid : Text) : Option Package :=
  turns.reverse.findSome? (saved? uuid)

/-- What is answered for a uuid whose package is known, or known to be missing. -/
def answerFor (path uuid : Text) : Option Package → Except Error Package
  | some p => .ok p
  | none =>
    match recordPath path uuid with
    | .ok record => .error (.notFound uuid record)
    | .error e => .error e

/-- Every load among some turns has answered what was saved last before it. -/
def LoadsLastSaved (path : Text) (turns : List Turn) : Prop :=
  ∀ before uuid outcome later, turns = before ++ (.load uuid, .loaded outcome) :: later →
    outcome = answerFor path uuid (lastSaved? before uuid)

/-- A uuid that is empty, holds a slash or a backslash, or begins with a dot. -/
def IsRefused (uuid : Text) : Prop :=
  uuid = [] ∨ '/' ∈ uuid ∨ '\\' ∈ uuid ∨ uuid.head? = some '.'

/-! ### Stores and maps -/

/-- The records in the directory at a place are the packages of a map. -/
structure Holds (path : Text) (place : Place) (t : FileTree) (m : Text → Option Package) : Prop where
  store : IsStore t path place
  files : ∀ uuid bytes, t.root.get? (place ++ [recordName uuid]) = some (.file bytes) ↔
    ∃ p, m uuid = some p ∧ bytes = content p
  sound : ∀ uuid p, m uuid = some p →
    isAcceptable uuid = true ∧ Admits path (recordName uuid) ∧ p.IsPlain

/-- A store stands for a map: its records are the packages of the map, or it is not yet made and the map
is empty. -/
def Abstracts (path : Text) (place : Place) (t : FileTree) (m : Text → Option Package) : Prop :=
  (t.IsVacant path place ∧ ∀ uuid, m uuid = none) ∨ Holds path place t m

section Abstracts

variable {path : Text} {place : Place} {t t' : FileTree} {m : Text → Option Package} {p : Package}

lemma Holds.load_eq (h : Holds path place t m) {uuid record : Text}
    (hrecord : recordPath path uuid = .ok record) :
    load path uuid t = answerFor path uuid (m uuid) := by
  obtain ⟨hacceptable, hpath⟩ := recordPath_eq_ok_iff.1 hrecord
  rcases hm : m uuid with _ | p
  · rcases hread : t.readFile record with fault | bytes
    · rw [load_of_readFile hrecord hread, answerFor, hrecord]
    · -- a file that can be read is a record, and so the map has a package for it
      rw [hpath, h.store.readFile_iff (isName_recordName hacceptable)] at hread
      obtain ⟨q, hq, -⟩ := (h.files uuid bytes).1 hread.2
      rw [hm] at hq
      cases hq
  · obtain ⟨-, hadmits, plain⟩ := h.sound uuid p hm
    have hfile := (h.files uuid (content p)).2 ⟨p, hm, rfl⟩
    exact h.store.load_iff.2 ⟨hacceptable, hadmits, content p, hfile, ofContent?_content plain⟩

/-- The uuids of the map are acceptable. -/
lemma Abstracts.eq_none (h : Abstracts path place t m) {uuid : Text} {e : Error}
    (hrecord : recordPath path uuid = .error e) : m uuid = none := by
  obtain ⟨hbad, -⟩ := recordPath_eq_error_iff.1 hrecord
  rcases h with ⟨-, hnone⟩ | h
  · exact hnone uuid
  · by_contra hm
    obtain ⟨p, hp⟩ := Option.ne_none_iff_exists'.1 hm
    rw [(h.sound uuid p hp).1] at hbad
    cases hbad

/-- **What is loaded is what the map has.** -/
theorem Abstracts.load_eq (h : Abstracts path place t m) (uuid : Text) :
    load path uuid t = answerFor path uuid (m uuid) := by
  rcases hrecord : recordPath path uuid with e | record
  · rw [load_of_recordPath hrecord, h.eq_none hrecord, answerFor, hrecord]
  · rcases h with ⟨vacant, hnone⟩ | h
    · obtain ⟨hacceptable, hpath⟩ := recordPath_eq_ok_iff.1 hrecord
      obtain ⟨fault, hread⟩ := vacant.readFile (isName_recordName hacceptable)
      rw [← hpath] at hread
      rw [load_of_readFile hrecord hread, hnone, answerFor, hrecord]
    · exact h.load_eq hrecord

/-! ### Saving -/

/-- A directory that was made at a vacant place has no records. -/
lemma holds_of_grows (h : t.IsVacant path place) (grows : Grows t t') (names : t'.Names path place)
    (hnone : ∀ uuid, m uuid = none) : Holds path place t' m where
  store := ⟨names, fun name target hlink => by
    rw [grows.link_iff, h.get?_eq_none] at hlink
    cases hlink⟩
  files uuid bytes := by
    rw [grows.file_iff, h.get?_eq_none, hnone]
    simp
  sound uuid p hp := by
    rw [hnone] at hp
    cases hp

lemma Abstracts.grows (h : Abstracts path place t m) (grows : Grows t t') :
    Abstracts path place t' m := by
  rcases h with ⟨vacant, hnone⟩ | h
  · rcases vacant.grows grows with vacant' | names
    · exact .inl ⟨vacant', hnone⟩
    · exact .inr (holds_of_grows vacant grows names hnone)
  · refine .inr ⟨h.store.of_grows grows, ?_, h.sound⟩
    intro uuid bytes
    rw [grows.file_iff, h.files]

/-- The directory of a store in which a file was written is there. -/
lemma Abstracts.holds (h : Abstracts path place t m) {name : Text} (hname : IsName name) {bytes : Bytes}
    (hwrite : t.writeFile (Path.join path name) bytes = .ok t') : Holds path place t m := by
  rcases h with ⟨vacant, -⟩ | h
  · obtain ⟨fault, hfault⟩ := vacant.writeFile hname bytes
    rw [hfault] at hwrite
    cases hwrite
  · exact h

/-- A temporary file is no record. -/
lemma Holds.writeTemporary (h : Holds path place t m) {uuid : Text} (hacceptable : isAcceptable uuid = true)
    {bytes : Bytes} (hwrite : t.writeFile (Path.join path (temporaryName uuid)) bytes = .ok t') :
    Holds path place t' m := by
  obtain ⟨store, -, -, hothers⟩ := h.store.writeFile (isName_temporaryName hacceptable) hwrite
  refine ⟨store, ?_, h.sound⟩
  intro other bytes
  rw [← Node.kindAt?_eq_file, hothers _ (recordName_ne_temporaryName _ _), Node.kindAt?_eq_file, h.files]

/-- The map after a turn. -/
def after (m : Text → Option Package) (turn : Turn) : Text → Option Package :=
  fun uuid => (saved? uuid turn).or (m uuid)

lemma after_saved (m : Text → Option Package) (p : Package) (uuid : Text) :
    after m (.save p, .saved (.ok ())) uuid = if p.uuid = uuid then some p else m uuid := by
  rw [after, saved?]
  split_ifs <;> rfl

lemma after_error (m : Text → Option Package) (p : Package) (e : Error) :
    after m (.save p, .saved (.error e)) = m := by
  funext uuid
  rfl

/-- A save changes nothing for the other uuids. -/
lemma after_of_ne (m : Text → Option Package) {p : Package} {uuid : Text} (h : uuid ≠ p.uuid)
    (outcome : Except Error Unit) : after m (.save p, .saved outcome) uuid = m uuid := by
  rcases outcome with e | ⟨⟩
  · rw [after_error]
  · rw [after_saved, if_neg (Ne.symm h)]

lemma Holds.replace (h : Holds path place t m) (plain : p.IsPlain) (hacceptable : isAcceptable p.uuid = true)
    {written : FileTree}
    (hwritten : t.writeFile (Path.join path (temporaryName p.uuid)) (content p) = .ok written)
    (hrenamed : written.rename (Path.join path (temporaryName p.uuid))
      (Path.join path (recordName p.uuid)) = .ok t') :
    Holds path place t' (after m (.save p, .saved (.ok ()))) ∧
      t'.root.get? (place ++ [temporaryName p.uuid]) = none := by
  obtain ⟨store, hadmits, hfile, hgone, hsame⟩ := h.store.replace hacceptable hwritten hrenamed
  refine ⟨⟨store, ?_, ?_⟩, hgone⟩
  · intro uuid bytes
    rw [after_saved]
    by_cases huuid : p.uuid = uuid
    · rw [← huuid, hfile, if_pos rfl]
      simp [eq_comm]
    · rw [if_neg huuid, record_iff_of_sameFilesBut hsame (Ne.symm huuid), h.files]
  · intro uuid q hq
    rw [after_saved] at hq
    by_cases huuid : p.uuid = uuid
    · rw [if_pos huuid] at hq
      obtain rfl := Option.some.inj hq
      rw [← huuid]
      exact ⟨hacceptable, hadmits, plain⟩
    · rw [if_neg huuid] at hq
      exact h.sound uuid q hq

/-- **A save** puts the package into the map and leaves no temporary file, or it fails and changes
nothing in the map. -/
theorem Abstracts.save (h : Abstracts path place t m) (plain : p.IsPlain) {outcome : Except Error Unit}
    (hsave : save path p t = (outcome, t')) :
    Abstracts path place t' (after m (.save p, .saved outcome)) ∧
      (outcome = .ok () → t'.root.get? (place ++ [temporaryName p.uuid]) = none) := by
  rcases save_cases hsave with ⟨-, rfl, rfl⟩ | ⟨hacceptable, made, rfl, hmade⟩
  · rw [after_error]
    exact ⟨h, nofun⟩
  have hgrown := h.grows (makeDirectories_grows t path)
  rcases hmade with ⟨rfl, rfl⟩ | ⟨rfl, rfl⟩ | ⟨written, hwritten, hrenamed⟩
  · rw [after_error]
    exact ⟨hgrown, nofun⟩
  · rw [after_error]
    exact ⟨hgrown, nofun⟩
  have holds := hgrown.holds (isName_temporaryName hacceptable) hwritten
  rcases hrenamed with ⟨rfl, rfl⟩ | ⟨rfl, hrenamed⟩
  · rw [after_error]
    exact ⟨.inr (holds.writeTemporary hacceptable hwritten), nofun⟩
  · obtain ⟨hholds, hgone⟩ := holds.replace plain hacceptable hwritten hrenamed
    exact ⟨.inr hholds, fun _ => hgone⟩

/-! ### Runs -/

lemma Abstracts.call (h : Abstracts path place t m) {call : Call}
    (plain : ∀ p, call = .save p → p.IsPlain) :
    Abstracts path place (call.run path t).2 (after m (call, (call.run path t).1)) := by
  cases call with
  | save p => exact (h.save (plain p rfl) rfl).1
  | load uuid => exact h

lemma lastSaved?_cons (turn : Turn) (turns : List Turn) (uuid : Text) :
    lastSaved? (turn :: turns) uuid = (lastSaved? turns uuid).or (saved? uuid turn) := by
  rw [lastSaved?, List.reverse_cons, List.findSome?_append, List.findSome?_singleton, lastSaved?]

/-- **After any calls** the map holds what was saved last, and what it held before under the other
uuids. -/
theorem Abstracts.runAll {calls : List Call} (h : Abstracts path place t m)
    (plain : ∀ p, .save p ∈ calls → p.IsPlain) :
    let run := runAll path calls t
    Abstracts path place run.2 fun uuid => (lastSaved? run.1 uuid).or (m uuid) := by
  induction calls generalizing t m with
  | nil => exact h
  | cons call calls ih =>
    have hcall := h.call fun p hp => plain p (hp ▸ List.mem_cons_self)
    have hcalls := ih hcall fun p hp => plain p (List.mem_cons_of_mem _ hp)
    have hmap : ∀ turns uuid, (lastSaved? turns uuid).or (after m (call, (call.run path t).1) uuid) =
        (lastSaved? ((call, (call.run path t).1) :: turns) uuid).or (m uuid) := by
      intro turns uuid
      rw [lastSaved?_cons, Option.or_assoc, after]
    simp only [hmap] at hcalls
    exact hcalls

/-- **Every load answers** what was saved last before it, or what the map held at first. -/
theorem Abstracts.loads {calls : List Call} (h : Abstracts path place t m)
    (plain : ∀ p, .save p ∈ calls → p.IsPlain) {before later : List Turn} {uuid : Text}
    {outcome : Except Error Package}
    (hturns : (RecordStore.runAll path calls t).1 = before ++ (.load uuid, .loaded outcome) :: later) :
    outcome = answerFor path uuid ((lastSaved? before uuid).or (m uuid)) := by
  induction calls generalizing t m before with
  | nil =>
    have hempty : [] = before ++ (Call.load uuid, Answer.loaded outcome) :: later := hturns
    simp at hempty
  | cons call calls ih =>
    have hcons : (call, (call.run path t).1) :: (RecordStore.runAll path calls (call.run path t).2).1 =
        before ++ (Call.load uuid, Answer.loaded outcome) :: later := hturns
    cases before with
    | nil =>
      obtain ⟨hturn, -⟩ := List.cons.inj hcons
      obtain ⟨rfl, houtcome⟩ := Prod.mk.inj hturn
      rw [← Answer.loaded.inj houtcome, h.load_eq]
      rfl
    | cons turn before =>
      obtain ⟨rfl, hrest⟩ := List.cons.inj hcons
      have hcall := h.call fun p hp => plain p (hp ▸ List.mem_cons_self)
      rw [ih hcall (fun p hp => plain p (List.mem_cons_of_mem _ hp)) hrest, lastSaved?_cons,
        Option.or_assoc, after]

/-! ### Refused uuids -/

lemma isAcceptable_eq_false_iff {uuid : Text} : isAcceptable uuid = false ↔ IsRefused uuid := by
  simp [isAcceptable, IsRefused]
  tauto

/-- A load refuses exactly these uuids. -/
theorem load_refused_iff {uuid : Text} :
    (∃ v, load path uuid t = .error (.badUuid v)) ↔ IsRefused uuid := by
  rw [← isAcceptable_eq_false_iff]
  rcases hrecord : recordPath path uuid with e | record
  · obtain ⟨hbad, rfl⟩ := recordPath_eq_error_iff.1 hrecord
    exact iff_of_true ⟨uuid, load_of_recordPath hrecord⟩ hbad
  · obtain ⟨hacceptable, -⟩ := recordPath_eq_ok_iff.1 hrecord
    apply iff_of_false
    · rintro ⟨v, hload⟩
      unfold load at hload
      rw [hrecord] at hload
      dsimp only [bind, Except.bind] at hload
      split at hload
      · cases hload
      · split at hload
        · cases hload
        · split at hload <;> cases hload
    · simp [hacceptable]

/-- A save refuses exactly these uuids, and changes nothing then. -/
theorem save_refused_iff :
    ((∃ v, (save path p t).1 = .error (.badUuid v)) ↔ IsRefused p.uuid) ∧
      (IsRefused p.uuid → (save path p t).2 = t) := by
  rw [← isAcceptable_eq_false_iff]
  rcases hsave : save path p t with ⟨outcome, t'⟩
  rcases save_cases hsave with ⟨hbad, rfl, rfl⟩ | ⟨hacceptable, made, -, hmade⟩
  · exact ⟨iff_of_true ⟨p.uuid, rfl⟩ hbad, fun _ => rfl⟩
  · refine ⟨iff_of_false ?_ (by simp [hacceptable]), by simp [hacceptable]⟩
    rintro ⟨v, rfl⟩
    rcases hmade with ⟨⟨⟩, -⟩ | ⟨⟨⟩, -⟩ | ⟨written, -, ⟨⟨⟩, -⟩ | ⟨⟨⟩, -⟩⟩

/-! ### The store -/

lemma get?_of_resolve {es : List (Text × Node)}
    (h : t.resolve path = .ok (.found place (.directory es))) :
    t.root.get? place = some (.directory es) := by
  rw [resolve_eq (checkPath_of_resolve h)] at h
  exact (exists_walks h).2

/-- There is nothing in a directory that is empty. -/
lemma get?_of_resolve_empty (h : t.resolve path = .ok (.found place (.directory []))) (name : Text) :
    t.root.get? (place ++ [name]) = none := by
  rw [Node.get?_append, get?_of_resolve h, Option.bind_some, Node.get?_cons]
  rfl

/-- A store whose directory is empty, or still to be made, stands for the empty map. -/
lemma abstracts_of_empty
    (h : t.resolve path = .ok (.found place (.directory [])) ∨ t.IsVacant path place) :
    Abstracts path place t fun _ => none := by
  rcases h with h | vacant
  · have flat := IsFlat.of_empty ⟨[], h⟩ (get?_of_resolve_empty h)
    refine .inr ⟨flat.store, ?_, nofun⟩
    intro uuid bytes
    rw [get?_of_resolve_empty h]
    simp
  · exact .inl ⟨vacant, fun _ => rfl⟩

lemma isReady_of_empty (makeable : t.IsMakeable path place)
    (h : t.resolve path = .ok (.found place (.directory [])) ∨ t.IsVacant path place) :
    IsReady t path place :=
  ⟨makeable, h.imp_left fun h => .of_empty ⟨[], h⟩ (get?_of_resolve_empty h)⟩

/-- A store that is ready is so after any calls. -/
lemma isReady_runAll (h : IsReady t path place) (calls : List Call) :
    IsReady (RecordStore.runAll path calls t).2 path place := by
  induction calls generalizing t with
  | nil => exact h
  | cons call calls ih =>
    cases call with
    | save p => exact ih h.save
    | load uuid => exact ih h

end Abstracts

/-- **A store is a map from uuids to packages.** Its directory is empty at first, or still to be made, and
the packages that are saved were read from texts. After any calls, what is loaded is what was saved last
under the uuid. A save changes nothing for the other uuids, and if it works, no temporary file is left.
Exactly the uuids that are empty, hold a slash or a backslash, or begin with a dot are refused, and then
nothing is changed. With any other uuid a save works, if the directory can be made and the name of the
temporary file is admitted. -/
theorem refines_map {path : Text} {place : Place} {t : FileTree}
    (start : t.resolve path = .ok (.found place (.directory [])) ∨ t.IsVacant path place)
    (calls : List Call) (texts : ∀ p, .save p ∈ calls → FromText p) :
    let run := runAll path calls t
    LoadsLastSaved path run.1 ∧
    (∀ uuid, load path uuid run.2 = answerFor path uuid (lastSaved? run.1 uuid)) ∧
    (∀ p, FromText p →
      let saved := save path p run.2
      (∀ uuid, uuid ≠ p.uuid → load path uuid saved.2 = load path uuid run.2) ∧
      (saved.1 = .ok () → load path p.uuid saved.2 = .ok p ∧
        saved.2.root.get? (place ++ [temporaryName p.uuid]) = none) ∧
      ((∃ v, saved.1 = .error (.badUuid v)) ↔ IsRefused p.uuid) ∧
      (IsRefused p.uuid → saved.2 = run.2) ∧
      (t.IsMakeable path place →
        (saved.1 = .ok () ↔ ¬IsRefused p.uuid ∧ Admits path (temporaryName p.uuid)))) ∧
    ∀ uuid, (∃ v, load path uuid run.2 = .error (.badUuid v)) ↔ IsRefused uuid := by
  intro run
  have hstart := abstracts_of_empty start
  have plain : ∀ p, .save p ∈ calls → p.IsPlain := fun p hp => (texts p hp).isPlain
  have hrun : Abstracts path place run.2 (lastSaved? run.1) := by
    have hall := hstart.runAll plain
    simp only [Option.or_none] at hall
    exact hall
  refine ⟨?_, hrun.load_eq, ?_, fun uuid => load_refused_iff⟩
  · intro before uuid outcome later hturns
    rw [hstart.loads plain hturns, Option.or_none]
  · intro p hp saved
    have hsave : save path p run.2 = (saved.1, saved.2) := rfl
    obtain ⟨hsaved, hgone⟩ := hrun.save hp.isPlain hsave
    refine ⟨?_, ?_, save_refused_iff.1, save_refused_iff.2, ?_⟩
    · intro uuid huuid
      rw [hsaved.load_eq, hrun.load_eq, after_of_ne _ huuid]
    · intro hok
      refine ⟨?_, hgone hok⟩
      rw [hsaved.load_eq, hok, after_saved, if_pos rfl, answerFor]
    · intro makeable
      have ready := isReady_runAll (isReady_of_empty makeable start) calls
      rw [← isAcceptable_eq_false_iff, Bool.not_eq_false]
      exact ready.save_iff

/-- A compressed package with dots in its uuid, and a nested value among its attributes. -/
def nestedPackage : Package where
  uuid := "u1.json.tmp"
  currentPath := "aip.7z"
  location := "aips"
  shape := .compressed "/pointers/u1.xml"
  status := .staging
  attributes := [("note", .array [.null, .object [("a \"b\"", .number (.integer (-3)))]])]

/-- The package as it is saved: its identifier and its status were set since it was read. -/
def uploadedPackage : Package :=
  { nestedPackage.setIdentifier "r1" with status := .uploaded }

lemma uploadedPackage_fromText : FromText uploadedPackage := by
  have number : Json.IsInteger64 (-3) := ⟨by decide, by decide⟩
  have inner : (Json.Value.object [("a \"b\"", .number (.integer (-3)))]).IsPlain 124 :=
    ⟨by decide, List.pairwise_singleton _ _, number, trivial⟩
  have plain : nestedPackage.IsPlain :=
    ⟨by decide, List.pairwise_singleton _ _, ⟨by decide, trivial, inner, trivial⟩, trivial⟩
  have read : FromText nestedPackage := .read (Package.read?_wide plain) rfl
  have identified := read.identifier "r1"
  exact identified.status .uploaded

/-- A tree with the directory of a store, in which nothing is. -/
def emptyStore : FileTree where
  root := .directory [("records", .directory [])]
  working := []

theorem refines_map_uploaded :
    let run := runAll "/records" [.save uploadedPackage, .load "u1"] emptyStore
    load "/records" "u1.json.tmp" run.2 = .ok uploadedPackage ∧
      ∀ uuid : Text, uuid ≠ "u1.json.tmp" → load "/records" uuid run.2 = answerFor "/records" uuid none := by
  have start : emptyStore.resolve "/records" = .ok (.found ["records"] (.directory [])) := by
    cbv
  have texts : ∀ p, .save p ∈ [Call.save uploadedPackage, .load "u1"] → FromText p := by
    simp [uploadedPackage_fromText]
  obtain ⟨-, hload, -⟩ := refines_map (.inl start) [.save uploadedPackage, .load "u1"] texts
  have hsaved : (save "/records" uploadedPackage emptyStore).1 = .ok () := by
    decide +kernel
  have hlast : ∀ uuid, lastSaved? (runAll "/records" [.save uploadedPackage, .load "u1"] emptyStore).1 uuid =
      if "u1.json.tmp" = uuid then some uploadedPackage else none := by
    intro uuid
    simp only [runAll, Call.run, hsaved, lastSaved?_cons]
    rfl
  refine ⟨?_, ?_⟩
  · rw [hload, hlast, if_pos rfl, answerFor]
  · intro uuid huuid
    rw [hload, hlast, if_neg (Ne.symm huuid)]

end Custodian.RecordStore
