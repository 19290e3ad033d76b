import Custodian.Proofs.Json.Scalar
import Custodian.Proofs.Space.Printed
import Custodian.Proofs.Table
import Custodian.Proofs.Text.Order
import Custodian.Proofs.Text.Utf8
import Custodian.Space.Local
import Mathlib.Data.List.Forall2
import Mathlib.Data.List.Perm.Subperm

/-!
# Browsing here and on a remote machine

A directory of this machine is read entry by entry; one of a remote machine is read from what a lister
prints about it. `Prints` says what a lister may print: a row for each entry in any order, with sizes written
with or without commas, and one for the directory itself.

* `ofPrinted_output`: the listing that is read from these rows is that of the entries.
* `browse_agree`: both ways of browsing have the same listing.
-/

namespace Custodian

open scoped List

namespace Listing

/-! ### What a lister prints -/

/-- Whether an entry is left out of listings. -/
def isHiddenEntry (e : Text × Node) : Bool :=
  e.1.head? = some '.'

/-- Whether a row is about an entry: it has its name, a mode that begins with a `d` exactly for directories,
and for files the size in decimal digits, between which commas may stand. -/
def Row.Shows (r : Row) (e : Text × Node) : Prop :=
  r.name.1 = e.1 ∧ match e.2 with
    | .directory _ => r.line.isDirectory = true
    | .file content =>
      r.line.isDirectory = false ∧ r.size.1.filter (· ≠ ',') = Text.ofNat content.length
    | .link _ => False

/-- Whether rows are those of a directory: one for itself and one for each entry, in any order. Hidden
entries may be left out. -/
def Prints (rows : List Row) (entries : Table Node) : Prop :=
  ∃ (self : Row) (listed : List Row) (shown : Table Node), rows.Perm (self :: listed) ∧
    self.name.1 = ['.'] ∧ List.Forall₂ Row.Shows listed shown ∧ shown.Sublist entries ∧
    ∀ e ∈ entries, isHiddenEntry e = false → e ∈ shown

/-! ### The listing of entries -/

/-- The listing of entries, none of which is left out. -/
def ofEntries (es : Table Node) : Listing where
  directories := Text.sort (Table.names (es.filter (·.2.isDirectory)))
  entries := Text.sort (Table.names es)
  sizes := Table.ofList ((es.filter (!·.2.isDirectory)).map fun e => (e.1, e.2.size))

lemma size?_of_filter {l : Line} {n : Nat} (h : l.size.filter (· ≠ ',') = Text.ofNat n)
    (small : n < Line.sizeLimit) : l.size? = some n := by
  have hplus : ∀ rest, Text.ofNat n ≠ '+' :: rest := by
    intro rest heq
    have hmem : '+' ∈ Text.ofNat n := heq ▸ List.mem_cons_self
    exact absurd (Json.isDigit_of_mem_ofNat hmem) (by decide)
  unfold Line.size?
  rw [h]
  dsimp only
  split
  · next rest heq => exact absurd heq (hplus rest)
  · rw [Json.toNat?_ofNat]
    simp [small]

/-- What a row that shows an entry is read as: its name, whether it is a directory, and the size of a file. -/
lemma Row.Shows.line {r : Row} {e : Text × Node} (h : r.Shows e) (small : e.2.size < Line.sizeLimit) :
    r.line.name = e.1 ∧ r.line.isDirectory = e.2.isDirectory ∧
      (e.2.isDirectory = false → r.line.size? = some e.2.size) := by
  obtain ⟨name, node⟩ := e
  obtain ⟨hname, hnode⟩ := h
  cases node with
  | directory es => exact ⟨hname, hnode, fun h => by cases h⟩
  | link target => cases hnode
  | file content =>
    obtain ⟨hmode, hsize⟩ := hnode
    exact ⟨hname, hmode, fun _ => size?_of_filter hsize small⟩

section Lines

variable {rows : List Row} {es : Table Node}

lemma names_of_shows (h : List.Forall₂ Row.Shows rows es) :
    (rows.map Row.line).map (·.name) = Table.names es := by
  induction h with
  | nil => rfl
  | cons hshows _ ih => exact List.cons_eq_cons.2 ⟨hshows.1, ih⟩

/-- Rows that show entries are listed as these entries. -/
lemma ofLines_eq (h : List.Forall₂ Row.Shows rows es) (small : ∀ e ∈ es, e.2.size < Line.sizeLimit) :
    ofLines (rows.map Row.line) = ofEntries es := by
  have hlists : ((rows.map Row.line).filter (·.isDirectory)).map (·.name) =
        Table.names (es.filter (·.2.isDirectory)) ∧
      (((rows.map Row.line).filter (!·.isDirectory)).filterMap fun l =>
          l.size?.map fun size => (l.name, size)) =
        (es.filter (!·.2.isDirectory)).map fun e => (e.1, e.2.size) := by
    induction h with
    | nil => exact ⟨rfl, rfl⟩
    | @cons r e rows es hshows _ ih =>
      obtain ⟨hdirectories, hsizes⟩ := ih fun f hf => small f (List.mem_cons_of_mem e hf)
      obtain ⟨hname, hmode, hsize⟩ := hshows.line (small e List.mem_cons_self)
      cases hdir : e.2.isDirectory with
      | true => simp_all [Table.names]
      | false => simp_all [Table.names]
  obtain ⟨hdirectories, hsizes⟩ := hlists
  rw [ofLines, names_of_shows h, hdirectories, hsizes]
  rfl

/-- Only files that are there have sizes. -/
lemma names_sizes_sublist (lines : List Line) :
    Table.names ((lines.filter (!·.isDirectory)).filterMap fun l =>
      l.size?.map fun size => (l.name, size)) <+ lines.map (·.name) := by
  induction lines with
  | nil => exact .slnil
  | cons l lines ih =>
    rw [List.filter_cons]
    split
    · rcases hsize : l.size? with _ | size
      · simpa [hsize] using ih.cons l.name
      · simpa [hsize, Table.names] using ih
    · exact ih.cons l.name

/-- The order of the lines does not matter. -/
lemma ofLines_perm {lines lines' : List Line} (h : lines.Perm lines')
    (distinct : (lines.map (·.name)).Nodup) : ofLines lines = ofLines lines' := by
  have hdirectories := Text.sort_congr ((h.filter (·.isDirectory)).map (·.name))
  have hentries := Text.sort_congr (h.map (·.name))
  have hsizes := Table.ofList_perm ((h.filter (!·.isDirectory)).filterMap fun l : Line =>
    l.size?.map fun size => (l.name, size)) (distinct.sublist (names_sizes_sublist lines))
  rw [ofLines, hdirectories, hentries, hsizes]
  rfl

/-- What is shown of a directory, but for hidden entries. -/
lemma filter_shown {entries shown : Table Node} (distinct : (Table.names entries).Nodup)
    (sub : shown <+ entries) (complete : ∀ e ∈ entries, isHiddenEntry e = false → e ∈ shown) :
    shown.filter (!isHiddenEntry ·) = entries.filter (!isHiddenEntry ·) := by
  have hnodup : (entries.filter (!isHiddenEntry ·)).Nodup := (List.Nodup.of_map _ distinct).filter _
  have hsub : entries.filter (!isHiddenEntry ·) ⊆ shown.filter (!isHiddenEntry ·) := by
    intro e he
    obtain ⟨hmem, hshown⟩ := List.mem_filter.1 he
    exact List.mem_filter.2 ⟨complete e hmem (by simpa using hshown), hshown⟩
  exact (sub.filter _).eq_of_length_le (List.subperm_of_subset hnodup hsub).length_le

/-- **What a lister prints about a directory** is read as the listing of its entries without the hidden
ones. -/
theorem ofPrinted_output {rows : List Row} {entries : Table Node} (printed : Prints rows entries)
    (distinct : (Table.names entries).Nodup) (small : ∀ e ∈ entries, e.2.size < Line.sizeLimit) :
    ofPrinted (output rows) = ofEntries (entries.filter (!isHiddenEntry ·)) := by
  obtain ⟨self, listed, shown, hrows, hself, hshows, sub, complete⟩ := printed
  have hhidden : ∀ r : Row, ∀ e, r.Shows e → (!r.line.isHidden) = (!isHiddenEntry e) := by
    rintro r e ⟨hname, -⟩
    rw [Line.isHidden, isHiddenEntry, ← hname]
    rfl
  have hkept : List.Forall₂ Row.Shows (listed.filter (!·.line.isHidden))
      (entries.filter (!isHiddenEntry ·)) := by
    rw [← filter_shown distinct sub complete]
    refine List.rel_filter ?_ hshows
    intro r e h
    change (!r.line.isHidden) = true ↔ (!isHiddenEntry e) = true
    rw [hhidden r e h]
  have hdot : self.line.isHidden = true := by
    rw [Line.isHidden, Row.line, hself]
    rfl
  have hlines : (listed.filter (!·.line.isHidden)).map Row.line ~ printedLines (output rows) := by
    have hlisted : ((self :: listed).map Row.line).filter (!·.isHidden) =
        (listed.filter (!·.line.isHidden)).map Row.line := by
      rw [List.map_cons, List.filter_cons_of_neg (by simp [hdot]), List.filter_map]
      rfl
    rw [printedLines_output, ← hlisted]
    exact ((hrows.map Row.line).filter _).symm
  have hdistinct : ((listed.filter (!·.line.isHidden)).map Row.line).map (·.name) |>.Nodup := by
    rw [names_of_shows hkept]
    exact distinct.sublist ((List.filter_sublist).map _)
  rw [ofPrinted, ← ofLines_perm hlines hdistinct]
  exact ofLines_eq hkept fun e he => small e (List.mem_filter.1 he).1

end Lines

end Listing

namespace Space

open Listing

lemma filter_byName_perm (entries : Table Node) (p : Text × Node → Bool) :
    (entries.mergeSort fun a b => !decide (b.1 < a.1)).filter p ~ entries.filter p :=
  (List.mergeSort_perm entries _).filter p

/-- Entries in the order of their names have their names in order, and so have some of them. -/
lemma names_byName (entries : Table Node) (p : Text × Node → Bool) :
    Table.names ((entries.mergeSort fun a b => !decide (b.1 < a.1)).filter p) =
      Text.sort (Table.names (entries.filter p)) := by
  have hsorted : (Table.names ((entries.mergeSort fun a b => !decide (b.1 < a.1)).filter p)).Pairwise
      fun a b => ¬b < a :=
    (Text.pairwise_sortBy Prod.fst entries).sublist ((List.filter_sublist).map _)
  exact (Text.sort_eq_of_perm ((filter_byName_perm entries p).symm.map _) hsorted).symm

/-- **The listing of a directory of this machine** is that of its entries without the hidden ones. -/
lemma listingOf_eq {entries : Table Node} (distinct : (Table.names entries).Nodup) :
    listingOf entries = ofEntries (entries.filter (!isHiddenEntry ·)) := by
  have hvisible : (entries.filter fun e => e.1.head? ≠ some '.') = entries.filter (!isHiddenEntry ·) := by
    refine List.filter_congr ?_
    intro e _
    simp [isHiddenEntry]
  have hnames : Table.names ((entries.filter (!isHiddenEntry ·)).mergeSort fun a b => !decide (b.1 < a.1)) =
      Text.sort (Table.names (entries.filter (!isHiddenEntry ·))) := by
    simpa using names_byName (entries.filter (!isHiddenEntry ·)) fun _ => true
  have hsizes := (filter_byName_perm (entries.filter (!isHiddenEntry ·)) (!·.2.isDirectory)).map
    fun e => (e.1, e.2.size)
  have hdistinct : (Table.names (((entries.filter (!isHiddenEntry ·)).filter (!·.2.isDirectory)).map
      fun e => (e.1, e.2.size))).Nodup := by
    rw [Table.names, List.map_map]
    exact distinct.sublist ((List.filter_sublist.trans List.filter_sublist).map _)
  rw [listingOf, hvisible]
  dsimp only
  rw [names_byName, hnames, ← Table.ofList_perm hsizes.symm hdistinct]
  rfl

lemma browseRemote_run {target : Text} {m : Machine} {ending : Ending} {printed : Text}
    (ran : (m.run Program.rsync.name ["--protect-args", "--list-only", "--exclude=.*", target] []
      none).1 = some ending)
    (success : ending.isSuccess = true) (shown : ending.output = Utf8.encode printed) :
    (browseRemote target m).1 = .ok (Listing.ofPrinted printed) := by
  obtain ⟨m', hrun⟩ : ∃ m', m.run Program.rsync.name
      ["--protect-args", "--list-only", "--exclude=.*", target] [] none = (some ending, m') :=
    ⟨_, Prod.ext ran rfl⟩
  unfold browseRemote runRsync
  rw [hrun]
  dsimp only
  rw [if_pos success, shown, Utf8.decodeForgiving_encode]

/-- **Browsing here and on a remote machine agree.** Take a directory of this machine in which no two entries
have the same name and no file is too large. Whatever rows a lister prints for it, the listing that is read
from them is that of browsing the directory here. So it is also that of browsing on any machine whose rsync
prints these rows. -/
theorem browse_agree {path : Text} {m : Machine} {entries : Table Node} {rows : List Row}
    (found : m.files.directory path = .ok (.directory entries))
    (distinct : (Table.names entries).Nodup)
    (small : ∀ e ∈ entries, e.2.size < Line.sizeLimit)
    (printed : Prints rows entries) :
    (browseLocal path m).1 = .ok (ofPrinted (output rows)) ∧
      ∀ target (remote : Machine) (ending : Ending),
        (remote.run Program.rsync.name ["--protect-args", "--list-only", "--exclude=.*", target] []
          none).1 = some ending →
        ending.isSuccess = true → ending.output = Utf8.encode (output rows) →
        (browseRemote target remote).1 = (browseLocal path m).1 := by
  have hlocal : (browseLocal path m).1 = .ok (ofPrinted (output rows)) := by
    unfold browseLocal
    rw [found]
    dsimp only [Node.entries]
    rw [listingOf_eq distinct, ofPrinted_output printed distinct small]
  refine ⟨hlocal, ?_⟩
  intro target remote ending ran success shown
  rw [hlocal]
  exact browseRemote_run ran success shown

section Depot

/-- A row of a lister that pads its columns with blanks. -/
def paddedRow (mode size : Field) (name : ShownName) : Row where
  mode := mode
  afterMode := ⟨"      ", isGap_of_all (by decide)⟩
  size := size
  afterSize := ⟨" ", isGap_of_all (by decide)⟩
  date := ⟨"2015/10/12", isField_of_all (by decide)⟩
  afterDate := ⟨" ", isGap_of_all (by decide)⟩
  time := ⟨"14:15:16", isField_of_all (by decide)⟩
  afterTime := ⟨" ", isGap_of_all (by decide)⟩
  name := name

/-- The content of a package. -/
def packed : Bytes :=
  List.replicate 1012 0

/-- A directory with a package, a hidden file and a subdirectory. -/
def depotEntries : Table Node :=
  [(".lock", .file []), ("pkg 0d4e.7z", .file packed), ("aips", .empty)]

/-- The row of a file. -/
def fileRow (size : Field) (name : ShownName) : Row :=
  paddedRow ⟨"-rw-r--r--", isField_of_all (by decide)⟩ size name

/-- The row of a directory. -/
def directoryRow (name : ShownName) : Row :=
  paddedRow ⟨"drwxr-xr-x", isField_of_all (by decide)⟩ ⟨"4,096", isField_of_all (by decide)⟩ name

/-- What a lister prints about it. -/
def depotRows : List Row :=
  [fileRow ⟨"1,012", isField_of_all (by decide)⟩ ⟨"pkg 0d4e.7z", isShownName_of_all (by decide)⟩,
    directoryRow ⟨".", isShownName_of_all (by decide)⟩,
    directoryRow ⟨"aips", isShownName_of_all (by decide)⟩]

/-- A machine with this directory, whose rsync prints these rows. -/
def depotMachine : Machine where
  files := ⟨.directory [("bin", .directory [("rsync", .file [])]), ("space", .directory depotEntries)], []⟩
  programs := [(["bin", "rsync"], .rsync)]
  searchPath := ["/bin"]
  ending _ _ := ⟨0, Utf8.encode (output depotRows), []⟩
  runs := []

lemma prints_depot : Prints depotRows depotEntries := by
  refine ⟨depotRows[1], [depotRows[0], depotRows[2]],
    [("pkg 0d4e.7z", .file packed), ("aips", .empty)], ?_, rfl, ?_, ?_, ?_⟩
  · exact .swap _ _ _
  · refine .cons ⟨rfl, rfl, ?_⟩ (.cons ⟨rfl, rfl⟩ .nil)
    rw [packed, List.length_replicate]
    decide
  · exact .cons _ (.refl _)
  · simp [depotEntries, isHiddenEntry]

theorem browse_agree_depot :
    (browseLocal "/space" depotMachine).1 = .ok (ofPrinted (output depotRows)) ∧
      (browseRemote "u@host:/space/" depotMachine).1 = (browseLocal "/space" depotMachine).1 := by
  have found : depotMachine.files.directory "/space" = .ok (.directory depotEntries) := rfl
  have agree := browse_agree found (by decide) (by decide +kernel) prints_depot
  exact ⟨agree.1, agree.2 "u@host:/space/" depotMachine _ rfl rfl rfl⟩

end Depot

end Space

end Custodian
