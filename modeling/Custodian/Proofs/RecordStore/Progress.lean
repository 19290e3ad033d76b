import Custodian.Proofs.FileTree.Vacant
import Custodian.Proofs.RecordStore

/-!
# Saving works

In a store that holds nothing but files, or that is still to be made, a package can be saved exactly if its
uuid is acceptable and its temporary file has a name that is admitted (`IsReady.save_iff`). Whatever comes of
it, the store stays ready.
-/

namespace Custodian.RecordStore

open FileTree

variable {t t' : FileTree} {path : Text} {place : Place} {p : Package}

/-! ### Names that are admitted -/

/-- The record of a package has a name that is admitted if its temporary file has one. -/
lemma admits_recordName (hacceptable : isAcceptable p.uuid = true)
    (h : Admits path (temporaryName p.uuid)) : Admits path (recordName p.uuid) := by
  obtain ⟨hcheck, hsize⟩ := h
  rw [join_temporaryName hacceptable, checkPath_eq_ok_iff, Utf8.size_append] at hcheck
  rw [temporaryName, Utf8.size_append] at hsize
  obtain ⟨hnull, -, hshort⟩ := hcheck
  have hne : Path.join path (recordName p.uuid) ≠ [] := by
    rw [Path.join, (isName_recordName hacceptable).isRelative]
    split_ifs <;> simp [(isName_recordName hacceptable).ne_nil]
  refine ⟨checkPath_eq_ok_iff.2 ⟨?_, hne, by omega⟩, by omega⟩
  intro hmem
  exact hnull (List.mem_append_left _ hmem)

/-! ### Stores that hold nothing but files -/

/-- A store that holds nothing but files. -/
structure IsFlat (t : FileTree) (path : Text) (place : Place) : Prop where
  store : IsStore t path place
  noDirectories : ∀ name es, t.root.get? (place ++ [name]) ≠ some (.directory es)

lemma IsFlat.of_empty (names : t.Names path place)
    (hnone : ∀ name, t.root.get? (place ++ [name]) = none) : IsFlat t path place where
  store := ⟨names, fun name target => by simp [hnone]⟩
  noDirectories name es := by simp [hnone]

/-- A store in which each name is as before, or is no directory, holds nothing but files. -/
lemma IsFlat.of_kinds (h : IsFlat t path place) (store : IsStore t' path place)
    (kinds : ∀ name, t'.root.kindAt? (place ++ [name]) = t.root.kindAt? (place ++ [name]) ∨
      ∀ es, t'.root.get? (place ++ [name]) ≠ some (.directory es)) : IsFlat t' path place where
  store := store
  noDirectories name es hdirectory := by
    rcases kinds name with same | hno
    · have hkind := Node.kindAt?_eq_directory.2 ⟨es, hdirectory⟩
      rw [same] at hkind
      obtain ⟨old, hold⟩ := Node.kindAt?_eq_directory.1 hkind
      exact h.noDirectories name old hold
    · exact hno es hdirectory

/-- At a name there is a file or nothing. -/
lemma IsFlat.cases (h : IsFlat t path place) (name : Text) :
    t.root.get? (place ++ [name]) = none ∨
      ∃ bytes, t.root.get? (place ++ [name]) = some (.file bytes) := by
  rcases hnode : t.root.get? (place ++ [name]) with _ | (bytes | target | es)
  · exact .inl rfl
  · exact .inr ⟨bytes, rfl⟩
  · exact absurd hnode (h.store.noLinks name target)
  · exact absurd hnode (h.noDirectories name es)

lemma IsFlat.writeFile (h : IsFlat t path place) {name : Text} (hname : IsName name) {bytes : Bytes}
    (hwrite : t.writeFile (Path.join path name) bytes = .ok t') : IsFlat t' path place := by
  obtain ⟨store, hfile, -, hothers⟩ := h.store.writeFile hname hwrite
  refine h.of_kinds store ?_
  intro other
  by_cases hother : other = name
  · exact .inr fun es => by simp [hother, hfile]
  · exact .inl (hothers other hother)

lemma IsFlat.rename (h : IsFlat t path place) {source target : Text} (hsource : IsName source)
    (htarget : IsName target) (hne : source ≠ target) {bytes : Bytes}
    (hfile : t.root.get? (place ++ [source]) = some (.file bytes))
    (hrename : t.rename (Path.join path source) (Path.join path target) = .ok t') :
    IsFlat t' path place := by
  obtain ⟨store, -, hplaced, hgone, -, hothers⟩ := h.store.rename hsource htarget hne hfile hrename
  refine h.of_kinds store ?_
  intro other
  by_cases htarget : other = target
  · exact .inr fun es => by simp [htarget, hplaced]
  by_cases hsource : other = source
  · exact .inr fun es => by simp [hsource, hgone]
  · exact .inl (hothers other hsource htarget)

/-- A file can be written under a name that is admitted, and only then. -/
lemma IsFlat.exists_writeFile_iff (h : IsFlat t path place) {name : Text} (hname : IsName name)
    (bytes : Bytes) : (∃ t', t.writeFile (Path.join path name) bytes = .ok t') ↔ Admits path name := by
  constructor
  · rintro ⟨t', hwrite⟩
    obtain ⟨found, -, ⟨old, hold⟩ | habsent⟩ := writeFile_cases hwrite
    · exact h.store.admits_of_resolve hname hold
    · exact h.store.admits_of_resolve hname habsent
  · rintro ⟨hcheck, hshort⟩
    obtain ⟨es, hes⟩ := h.store.names.isDirectory
    rw [FileTree.writeFile, h.store.names.resolve_join hname hcheck (h.store.noLinks name), lookIn,
      if_neg (Nat.not_lt.2 hshort)]
    rcases h.cases name with hnone | ⟨old, hold⟩
    · rw [hnone]
      exact exists_put hes name _
    · rw [hold]
      exact exists_put hes name _

/-- A file can be renamed to another name that is admitted. -/
lemma IsFlat.exists_rename (h : IsFlat t path place) {source target : Text} (hsource : IsName source)
    (htarget : IsName target) (hne : source ≠ target) {bytes : Bytes}
    (hfile : t.root.get? (place ++ [source]) = some (.file bytes)) (hadmits : Admits path source)
    (hadmits' : Admits path target) :
    ∃ t', t.rename (Path.join path source) (Path.join path target) = .ok t' := by
  have hplaces : place ++ [source] ≠ place ++ [target] := by simpa using hne
  have hreplace : mayReplace (.file bytes) (t.root.get? (place ++ [target])) = .ok () := by
    rcases h.cases target with hnone | ⟨old, hold⟩
    · rw [hnone]
      rfl
    · rw [hold]
      rfl
  have hkept : ¬place ++ [source] <+: place := by
    intro hprefix
    have hlength := hprefix.length_le
    rw [List.length_append, List.length_singleton] at hlength
    omega
  obtain ⟨es, hes⟩ := Node.kindAt?_eq_directory.1
    ((Node.kindAt?_erase hkept).trans (Node.kindAt?_eq_directory.2 h.store.names.isDirectory))
  obtain ⟨t', ht'⟩ := exists_put (t := { t with root := t.root.erase (place ++ [source]) }) hes target
    (.file bytes)
  have hentry := h.store.names.entry_join hsource hadmits.1
  have hentry' := h.store.names.entry_join htarget hadmits'.1
  rw [if_neg (Nat.not_lt.2 hadmits.2)] at hentry
  rw [if_neg (Nat.not_lt.2 hadmits'.2)] at hentry'
  exact ⟨t', (rename_of_entries hentry hentry' rfl rfl hfile hplaces hreplace).trans ht'⟩

/-! ### Saving -/

/-- A store that is flat, or that is still to be made and can be made. -/
def IsReady (t : FileTree) (path : Text) (place : Place) : Prop :=
  t.IsMakeable path place ∧ (IsFlat t path place ∨ t.IsVacant path place)

/-- The directory of a store is made if it is not there, and then there is nothing but files in it. -/
lemma IsReady.makeDirectories (h : IsReady t path place) :
    ∃ made, t.makeDirectories path = (.ok (), made) ∧ IsFlat made path place := by
  obtain ⟨makeable, flat | vacant⟩ := h
  · exact ⟨t, flat.store.names.makeDirectories makeable.absolute, flat⟩
  · obtain ⟨made, hmade, names, hnone⟩ := vacant.makeDirectories makeable
    exact ⟨made, hmade, .of_empty names hnone⟩

/-- **A save works** exactly if the uuid is acceptable and the name of the temporary file is admitted. -/
theorem IsReady.save_iff (h : IsReady t path place) : (save path p t).1 = .ok () ↔
    isAcceptable p.uuid = true ∧ Admits path (temporaryName p.uuid) := by
  obtain ⟨made, hmade, flat⟩ := h.makeDirectories
  have hmade' : (t.makeDirectories path).2 = made := congrArg Prod.snd hmade
  constructor
  · intro hok
    have hsave : save path p t = (.ok (), (save path p t).2) := Prod.ext hok rfl
    rcases save_cases hsave with
      ⟨-, ⟨⟩, -⟩ | ⟨hacceptable, made, rfl, ⟨⟨⟩, -⟩ | ⟨⟨⟩, -⟩ | ⟨written, hwritten, -⟩⟩
    rw [hmade'] at hwritten
    exact ⟨hacceptable,
      (flat.exists_writeFile_iff (isName_temporaryName hacceptable) _).1 ⟨written, hwritten⟩⟩
  · rintro ⟨hacceptable, hadmits⟩
    have htemporary := isName_temporaryName hacceptable
    have hrecord := isName_recordName hacceptable
    have hne := (recordName_ne_temporaryName p.uuid p.uuid).symm
    obtain ⟨written, hwritten⟩ := (flat.exists_writeFile_iff htemporary (content p)).2 hadmits
    obtain ⟨-, hfile, -⟩ := flat.store.writeFile htemporary hwritten
    obtain ⟨renamed, hrenamed⟩ := (flat.writeFile htemporary hwritten).exists_rename htemporary hrecord
      hne hfile hadmits (admits_recordName hacceptable hadmits)
    unfold save
    rw [recordPath_eq_ok_iff.2 ⟨hacceptable, rfl⟩, hmade]
    dsimp only
    rw [temporaryPath_join hacceptable, hwritten]
    dsimp only
    rw [hrenamed]

lemma IsFlat.isReady (h : IsFlat t path place) (absolute : Path.isAbsolute path = true) :
    IsReady t path place := by
  refine ⟨⟨absolute, ?_⟩, .inl h⟩
  rintro ⟨asDirectory, habsent⟩
  obtain ⟨es, hes⟩ := h.store.names
  rw [hes] at habsent
  cases habsent

/-- Whatever comes of a save, the store is ready for the next one. -/
theorem IsReady.save (h : IsReady t path place) : IsReady (RecordStore.save path p t).2 path place := by
  have absolute := h.1.absolute
  obtain ⟨made, hmade, flat⟩ := h.makeDirectories
  rcases hsave : RecordStore.save path p t with ⟨outcome, t'⟩
  dsimp only
  rcases save_cases hsave with ⟨-, -, rfl⟩ | ⟨hacceptable, after, hafter, hcases⟩
  · exact h
  obtain rfl : after = made := hafter.trans (congrArg Prod.snd hmade)
  have htemporary := isName_temporaryName hacceptable
  rcases hcases with ⟨-, rfl⟩ | ⟨-, rfl⟩ | ⟨written, hwritten, ⟨-, rfl⟩ | ⟨-, hrenamed⟩⟩
  · exact flat.isReady absolute
  · exact flat.isReady absolute
  · exact (flat.writeFile htemporary hwritten).isReady absolute
  · obtain ⟨-, hfile, -⟩ := flat.store.writeFile htemporary hwritten
    have hrename := (flat.writeFile htemporary hwritten).rename htemporary (isName_recordName hacceptable)
      (recordName_ne_temporaryName p.uuid p.uuid).symm hfile hrenamed
    exact hrename.isReady absolute

end Custodian.RecordStore
