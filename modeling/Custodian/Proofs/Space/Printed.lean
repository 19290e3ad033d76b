import Custodian.Proofs.Text.Split
import Custodian.Space.Listing
import Mathlib.Data.List.Basic

/-!
# Printed rows

A lister prints a row for each entry: four fields with blanks after each of them, and the name, which goes
on to the end of the line. A row is read back as the line it stands for (`ofText?_text`), and all of the
rows from the output they make (`printedLines_output`).
-/

namespace Custodian.Listing

open Text (isBlank)

/-! ### Rows -/

/-- A field: a text that is not empty and has no blanks. -/
abbrev Field := { t : Text // t ≠ [] ∧ ∀ c ∈ t, isBlank c = false }

/-- What stands after a field: one or more blanks, and no line feed. -/
abbrev Gap := { t : Text // t ≠ [] ∧ ∀ c ∈ t, isBlank c = true ∧ c ≠ '\n' }

/-- A name that a line can show: it begins with something else than a blank and has no line end. -/
abbrev ShownName := { t : Text // (∃ c ∈ t.head?, isBlank c = false) ∧ '\r' ∉ t ∧ '\n' ∉ t }

lemma isField_of_all {t : Text} (h : (!t.isEmpty && t.all (!isBlank ·)) = true) :
    t ≠ [] ∧ ∀ c ∈ t, isBlank c = false := by
  simpa using h

lemma isGap_of_all {t : Text} (h : (!t.isEmpty && t.all fun c => isBlank c && c != '\n') = true) :
    t ≠ [] ∧ ∀ c ∈ t, isBlank c = true ∧ c ≠ '\n' := by
  simpa using h

lemma isShownName_of_all {t : Text}
    (h : (t.head?.any (!isBlank ·) && t.all fun c => c != '\r' && c != '\n') = true) :
    (∃ c ∈ t.head?, isBlank c = false) ∧ '\r' ∉ t ∧ '\n' ∉ t := by
  obtain ⟨hbegins, hends⟩ := Bool.and_eq_true_iff.1 h
  have hends' : ∀ c ∈ t, c ≠ '\r' ∧ c ≠ '\n' := by simpa using hends
  obtain ⟨c, hc, hunblank⟩ := (Option.any_eq_true _ _).1 hbegins
  exact ⟨⟨c, hc, by simpa using hunblank⟩, fun hmem => (hends' _ hmem).1 rfl,
    fun hmem => (hends' _ hmem).2 rfl⟩

/-- What a lister prints about an entry. -/
structure Row where
  mode : Field
  afterMode : Gap
  size : Field
  afterSize : Gap
  date : Field
  afterDate : Gap
  time : Field
  afterTime : Gap
  name : ShownName

/-- A field, the blanks after it, and what follows them. -/
def column (f : Field) (g : Gap) (rest : Text) : Text :=
  f.1 ++ (g.1 ++ rest)

namespace Row

/-- A row without the end of its line. -/
def text (r : Row) : Text :=
  column r.mode r.afterMode <| column r.size r.afterSize <| column r.date r.afterDate <|
    column r.time r.afterTime r.name.1

/-- What is read from a row. -/
def line (r : Row) : Line :=
  ⟨r.mode.1, r.size.1, r.name.1⟩

end Row

/-- The output that consists of some rows. -/
def output (rows : List Row) : Text :=
  (rows.map Row.text).flatMap (· ++ ['\n'])

/-! ### Columns -/

/-- Whether a text begins with something else than a blank. -/
def BeginsUnblank (t : Text) : Prop :=
  ∃ c ∈ t.head?, isBlank c = false

lemma trimBlanksStart_of_beginsUnblank {t : Text} (h : BeginsUnblank t) : Text.trimBlanksStart t = t := by
  obtain ⟨c, hc, hblank⟩ := h
  rcases t with _ | ⟨d, t⟩
  · cases hc
  · obtain rfl : d = c := by simpa using hc
    exact List.dropWhile_cons_of_neg (by simp [hblank])

section Columns

variable (f : Field) (g : Gap) {rest : Text}

lemma beginsUnblank_column (rest : Text) : BeginsUnblank (column f g rest) := by
  obtain ⟨c, t, ht⟩ := List.exists_cons_of_ne_nil f.2.1
  have hc : isBlank c = false := f.2.2 c (by simp [ht])
  exact ⟨c, by simp [column, ht], hc⟩

lemma cutAtBlank?_append {t : Text} (h : ∀ c ∈ t, isBlank c = false) {c : Char} (blank : isBlank c = true)
    (rest : Text) : Text.cutAtBlank? (t ++ c :: rest) = some (t, rest) := by
  induction t with
  | nil => simp [Text.cutAtBlank?, blank]
  | cons d t ih =>
    have hd : isBlank d = false := h d List.mem_cons_self
    have ht : Text.cutAtBlank? (t ++ c :: rest) = some (t, rest) :=
      ih fun e he => h e (List.mem_cons_of_mem d he)
    simp [Text.cutAtBlank?, hd, ht]

/-- A column is cut off with all the blanks after its field. -/
lemma field?_column (h : BeginsUnblank rest) : field? (column f g rest) = some (f.1, rest) := by
  obtain ⟨c, blanks, hg⟩ := List.exists_cons_of_ne_nil g.2.1
  have hblank : ∀ d ∈ g.1, isBlank d = true := fun d hd => (g.2.2 d hd).1
  have hcut : Text.cutAtBlank? (column f g rest) = some (f.1, blanks ++ rest) := by
    rw [column, hg]
    exact cutAtBlank?_append f.2.2 (hblank c (by simp [hg])) _
  have htrim : Text.trimBlanksStart (blanks ++ rest) = rest := by
    have hblanks : ∀ d ∈ blanks, isBlank d = true := fun d hd => hblank d (by simp [hg, hd])
    rw [Text.trimBlanksStart, Text.trimStart, List.dropWhile_append_of_pos hblanks]
    exact trimBlanksStart_of_beginsUnblank h
  rw [field?, hcut, Option.map_some]
  dsimp only
  rw [htrim]

lemma not_mem_column (h : '\n' ∉ rest) : '\n' ∉ column f g rest := by
  have hf : '\n' ∉ f.1 := by
    intro hmem
    cases f.2.2 _ hmem
  have hg : '\n' ∉ g.1 := fun hmem => (g.2.2 _ hmem).2 rfl
  simp [column, hf, hg, h]

lemma getLast?_column (h : rest ≠ []) : (column f g rest).getLast? = rest.getLast? := by
  have hlast : rest.getLast? = some (rest.getLast h) := List.getLast?_eq_some_getLast h
  simp [column, List.getLast?_append, hlast]

lemma column_ne_nil (rest : Text) : column f g rest ≠ [] := by
  simp [column, f.2.1]

end Columns

/-! ### Lines -/

lemma ne_nil_of_beginsUnblank {t : Text} (h : BeginsUnblank t) : t ≠ [] := by
  obtain ⟨c, hc, -⟩ := h
  rintro rfl
  cases hc

section Rows

variable (r : Row)

/-- **A row is read** as the line it stands for. -/
theorem ofText?_text : Line.ofText? r.text = some r.line := by
  have hname : BeginsUnblank r.name.1 := r.name.2.1
  have hempty : r.name.1.isEmpty = false :=
    List.isEmpty_eq_false_iff.2 (ne_nil_of_beginsUnblank hname)
  unfold Line.ofText? Row.text
  simp only [trimBlanksStart_of_beginsUnblank (beginsUnblank_column _ _ _),
    field?_column _ _ (beginsUnblank_column _ _ _), field?_column _ _ hname, Option.bind_eq_bind,
    Option.bind_some, hempty]
  rfl

lemma not_mem_text : '\n' ∉ r.text :=
  not_mem_column _ _ (not_mem_column _ _ (not_mem_column _ _ (not_mem_column _ _ r.name.2.2.2)))

lemma getLast?_text : r.text.getLast? ≠ some '\r' := by
  have hname : r.name.1 ≠ [] := ne_nil_of_beginsUnblank r.name.2.1
  have hlast : r.text.getLast? = r.name.1.getLast? := by
    rw [Row.text, getLast?_column _ _ (column_ne_nil _ _ _), getLast?_column _ _ (column_ne_nil _ _ _),
      getLast?_column _ _ (column_ne_nil _ _ _), getLast?_column _ _ hname]
  rw [hlast]
  intro h
  exact r.name.2.2.1 (List.mem_of_getLast? h)

end Rows

/-- **The rows of an output** are read one by one, and those of hidden entries are left out. -/
theorem printedLines_output (rows : List Row) :
    printedLines (output rows) = (rows.map Row.line).filter (!·.isHidden) := by
  have hlines : Text.lines (output rows) = rows.map Row.text := by
    rw [output]
    apply Text.lines_flatMap
    · intro t ht
      obtain ⟨r, -, rfl⟩ := List.mem_map.1 ht
      exact not_mem_text r
    · intro t ht
      obtain ⟨r, -, rfl⟩ := List.mem_map.1 ht
      exact getLast?_text r
  have hread : (rows.map Row.text).filterMap Line.ofText? = rows.map Row.line := by
    rw [List.filterMap_map]
    exact List.filterMap_eq_map_iff_forall_eq_some.2 fun r _ => ofText?_text r
  rw [printedLines, hlines, hread]

end Custodian.Listing
