import Custodian.Proofs.Space.Browse

/-!
# Listings of any output

What a lister prints is beyond control: there may be noise, short lines, odd blanks, sizes that are none, and
names that come twice. Whatever it is, a listing with the same shape is read from it. The name of a line that is
read is the end of that line (`ofText?_name`), so what holds of the ends of lines holds of the names.

* `isShaped_ofPrinted`: the shape of a listing that is read from any output.
* `ofPrinted_shape`: that shape, and in which sense it does not matter in which order the lines were printed.
-/

namespace Custodian.Listing

open scoped List
open Text (isBlank)

/-! ### Lines that are read -/

lemma cutAtBlank?_suffix {t head rest : Text} : Text.cutAtBlank? t = some (head, rest) → rest <:+ t := by
  fun_induction Text.cutAtBlank? t generalizing head with
  | case1 => nofun
  | case2 c t blank =>
    rintro ⟨⟩
    exact List.suffix_cons c rest
  | case3 c t unblank ih =>
    intro h
    obtain ⟨⟨first, tail⟩, hcut, heq⟩ := Option.map_eq_some_iff.1 h
    cases heq
    exact (ih hcut).trans (List.suffix_cons c t)

/-- What is left behind a field is an end of the text and does not begin with a blank. -/
lemma field?_suffix {t head rest : Text} (h : field? t = some (head, rest)) :
    rest <:+ t ∧ ∀ c ∈ rest.head?, isBlank c = false := by
  obtain ⟨⟨head, tail⟩, hcut, heq⟩ := Option.map_eq_some_iff.1 h
  cases heq
  refine ⟨(List.dropWhile_suffix isBlank).trans (cutAtBlank?_suffix hcut), ?_⟩
  intro c hc
  have hkept := List.head?_dropWhile_not isBlank tail
  have hhead : (tail.dropWhile isBlank).head? = some c := hc
  rwa [hhead] at hkept

/-- **The name of a line** is an end of the line that begins with something else than a blank. -/
lemma ofText?_name {t : Text} {l : Line} (h : Line.ofText? t = some l) :
    l.name <:+ t ∧ BeginsUnblank l.name := by
  unfold Line.ofText? at h
  simp only [Option.bind_eq_bind, Option.bind_eq_some_iff, Prod.exists] at h
  obtain ⟨mode, afterMode, hmode, size, afterSize, hsize, date, afterDate, hdate, time, name, htime,
    hname⟩ := h
  split at hname
  · cases hname
  · next hne =>
    cases hname
    obtain ⟨hmodes, -⟩ := field?_suffix hmode
    obtain ⟨hsizes, -⟩ := field?_suffix hsize
    obtain ⟨hdates, -⟩ := field?_suffix hdate
    obtain ⟨htimes, hunblank⟩ := field?_suffix htime
    refine ⟨?_, ?_⟩
    · exact htimes.trans (hdates.trans (hsizes.trans (hmodes.trans (List.dropWhile_suffix isBlank))))
    · obtain ⟨c, rest, hcons⟩ := List.exists_cons_of_ne_nil (by simpa using hne : name ≠ [])
      exact ⟨c, by simp [hcons], hunblank c (by simp [hcons])⟩

/-! ### The shape of a listing -/

/-- Whether texts stand in the order of their bytes. -/
def AreInOrder (ts : List Text) : Prop :=
  (ts.map Utf8.encode).Pairwise (· ≤ ·)

lemma areInOrder_sort (ts : List Text) : AreInOrder (Text.sort ts) := by
  rw [AreInOrder, List.pairwise_map]
  refine (Text.pairwise_sort ts).imp ?_
  intro a b hle
  rwa [← List.not_lt, Utf8.encode_lt_iff]

/-- Whether a text may be a name that some line of an output shows: it is an end of that line, and begins neither
with a dot nor with a blank. -/
structure IsShownIn (output name : Text) : Prop where
  nonempty : name ≠ []
  undotted : name.head? ≠ some '.'
  unblank : ∀ c ∈ name.head?, isBlank c = false
  unbroken : '\n' ∉ name
  inLine : ∃ line ∈ Text.lines output, name <:+ line

/-- What a listing is like that is read from an output. -/
structure IsShaped (output : Text) (l : Listing) : Prop where
  /-- There is an entry for each line that is accepted, -/
  complete : l.entries ~ (printedLines output).map (·.name)
  /-- a directory for each of them that is one, -/
  listed : l.directories ~ ((printedLines output).filter (·.isDirectory)).map (·.name)
  /-- and a size for the name of each other one that states a size. -/
  sized : ∀ line ∈ printedLines output, line.isDirectory = false → line.size?.isSome = true →
    line.name ∈ Table.names l.sizes
  entriesInOrder : AreInOrder l.entries
  directoriesInOrder : AreInOrder l.directories
  sizesInOrder : Table.IsAscending l.sizes
  /-- No directory is listed more often than it is an entry. -/
  directories : l.directories <+~ l.entries
  sizes : ∀ e ∈ l.sizes, e.1 ∈ l.entries ∧ e.2 < Nat.pow 2 64
  /-- Sizes are as stated in lines that are accepted. -/
  stated : ∀ e ∈ l.sizes, ∃ line ∈ printedLines output, line.isDirectory = false ∧ line.name = e.1 ∧
    line.size? = some e.2
  names : ∀ name ∈ l.entries, IsShownIn output name

lemma size?_lt {l : Line} {n : Nat} (h : l.size? = some n) : n < Nat.pow 2 64 := by
  unfold Line.size? at h
  exact of_decide_eq_true (Option.filter_eq_some_iff.1 h).2

section Sizes

variable {lines : List Line}

lemma exists_line_of_mem_sizes {e : Text × Nat} (h : e ∈ (ofLines lines).sizes) :
    ∃ l ∈ lines, l.isDirectory = false ∧ l.name = e.1 ∧ l.size? = some e.2 := by
  obtain ⟨l, hl, hsize⟩ := List.mem_filterMap.1 (Table.mem_ofList _ h)
  obtain ⟨hmem, hfile⟩ := List.mem_filter.1 hl
  obtain ⟨n, hn, rfl⟩ := Option.map_eq_some_iff.1 hsize
  exact ⟨l, hmem, by simpa using hfile, rfl, hn⟩

lemma mem_names_sizes {l : Line} (hl : l ∈ lines) (file : l.isDirectory = false)
    (stated : l.size?.isSome = true) : l.name ∈ Table.names (ofLines lines).sizes := by
  obtain ⟨n, hn⟩ := Option.isSome_iff_exists.1 stated
  have hentry : (l.name, n) ∈ (lines.filter (!·.isDirectory)).filterMap fun l =>
      l.size?.map fun size => (l.name, size) :=
    List.mem_filterMap.2 ⟨l, List.mem_filter.2 ⟨hl, by simp [file]⟩, by simp [hn]⟩
  exact (Table.mem_names_ofList _).2 (List.mem_map_of_mem hentry)

end Sizes

/-- What an accepted line shows as a name. -/
lemma isShownIn_of_mem {output : Text} {l : Line} (h : l ∈ printedLines output) :
    IsShownIn output l.name := by
  obtain ⟨hread, hvisible⟩ := List.mem_filter.1 h
  obtain ⟨line, hline, hl⟩ := List.mem_filterMap.1 hread
  obtain ⟨hend, hbegins⟩ := ofText?_name hl
  refine ⟨ne_nil_of_beginsUnblank hbegins, ?_, ?_, ?_, line, hline, hend⟩
  · simpa [Line.isHidden] using hvisible
  · obtain ⟨c, hc, hunblank⟩ := hbegins
    intro d hd
    rwa [Option.mem_unique hd hc]
  · exact fun hmem => Text.not_mem_of_mem_lines hline (hend.subset hmem)

/-- **Whatever is printed**, a listing of this shape is read. -/
theorem isShaped_ofPrinted (output : Text) : IsShaped output (ofPrinted output) where
  complete := Text.sort_perm _
  listed := Text.sort_perm _
  sized := fun _ => mem_names_sizes
  entriesInOrder := areInOrder_sort _
  directoriesInOrder := areInOrder_sort _
  sizesInOrder := Table.isAscending_ofList _
  directories := by
    have hsub : ((printedLines output).filter (·.isDirectory)).map (·.name) <+~
        (printedLines output).map (·.name) := (List.filter_sublist.map _).subperm
    exact (Text.sort_perm _).subperm.trans (hsub.trans (Text.sort_perm _).symm.subperm)
  sizes := by
    intro e he
    obtain ⟨l, hl, -, hname, hsize⟩ := exists_line_of_mem_sizes he
    exact ⟨(Text.sort_perm _).mem_iff.2 (List.mem_map.2 ⟨l, hl, hname⟩), size?_lt hsize⟩
  stated := fun _ => exists_line_of_mem_sizes
  names := by
    intro name hname
    obtain ⟨l, hl, rfl⟩ := List.mem_map.1 ((Text.sort_perm _).mem_iff.1 hname)
    exact isShownIn_of_mem hl

/-! ### The order of the lines -/

/-- Lines, each of them ended by a line feed. -/
def ended (lines : List Text) : Text :=
  lines.flatMap (· ++ ['\n'])

lemma printedLines_perm {lines lines' : List Text} (unbroken : ∀ line ∈ lines, '\n' ∉ line)
    (h : lines ~ lines') : printedLines (ended lines) ~ printedLines (ended lines') := by
  have hlines := Text.lines_ended unbroken
  have hlines' := Text.lines_ended fun line hline => unbroken line (h.mem_iff.2 hline)
  unfold printedLines ended
  rw [hlines, hlines']
  exact ((h.map Text.dropReturn).filterMap Line.ofText?).filter _

/-- **Listings of any output** have the same shape. Entries and directories are in the order of their bytes, and
directories are entries; what has a size is an entry, and the size is less than two to the power of 64; a name is
an end of a line and begins neither with a dot nor with a blank. If each line of an output is ended by a line
feed, then the lines, each with its end, may come in any order: the entries and directories are the same, and so
are the sizes unless two accepted lines have the same name. A carriage return before a line feed belongs to the
end of the line. -/
theorem ofPrinted_shape :
    (∀ output, IsShaped output (ofPrinted output)) ∧
      ∀ lines lines' : List Text, (∀ line ∈ lines, '\n' ∉ line) → lines ~ lines' →
        (ofPrinted (ended lines)).entries = (ofPrinted (ended lines')).entries ∧
        (ofPrinted (ended lines)).directories = (ofPrinted (ended lines')).directories ∧
        (((printedLines (ended lines)).map (·.name)).Nodup →
          (ofPrinted (ended lines)).sizes = (ofPrinted (ended lines')).sizes) := by
  refine ⟨isShaped_ofPrinted, ?_⟩
  intro lines lines' unbroken h
  have hprinted := printedLines_perm unbroken h
  refine ⟨?_, ?_, ?_⟩
  · exact Text.sort_congr (hprinted.map (·.name))
  · exact Text.sort_congr ((hprinted.filter (·.isDirectory)).map (·.name))
  · intro distinct
    exact congrArg Listing.sizes (ofLines_perm hprinted distinct)

section Noisy

/-- Lines with noise, a hidden entry and two sorts of line ends. -/
def noisyLines : List Text :=
  ["receiving incremental file list", "", "-rw-r--r--      1,451,820 2015/10/12 14:15:16 pkg 0d4e.7z\r",
    "drwxr-xr-x          4,096 2015/10/12 14:15:16 aips",
    "-rw-r--r--             12 2015/10/12 14:15:16 .lock"]

theorem ofPrinted_shape_noisy :
    (printedLines (ended noisyLines)).map (·.name) = [("pkg 0d4e.7z" : Text), "aips"] ∧
      IsShaped (ended noisyLines) (ofPrinted (ended noisyLines)) ∧
      (ofPrinted (ended noisyLines)).entries = (ofPrinted (ended noisyLines.reverse)).entries ∧
      (ofPrinted (ended noisyLines)).directories = (ofPrinted (ended noisyLines.reverse)).directories ∧
      (ofPrinted (ended noisyLines)).sizes = (ofPrinted (ended noisyLines.reverse)).sizes := by
  have accepted : (printedLines (ended noisyLines)).map (·.name) = [("pkg 0d4e.7z" : Text), "aips"] := by
    decide +kernel
  have distinct : ((printedLines (ended noisyLines)).map (·.name)).Nodup := by
    rw [accepted]
    decide
  obtain ⟨hentries, hdirectories, hsizes⟩ := ofPrinted_shape.2 noisyLines noisyLines.reverse (by decide)
    (List.reverse_perm noisyLines).symm
  exact ⟨accepted, ofPrinted_shape.1 _, hentries, hdirectories, hsizes distinct⟩

end Noisy

end Custodian.Listing
