import Custodian.Proofs.Timestamp.Digits
import Mathlib.Data.Option.Basic

/-!
# Reading back a timestamp that was written

A timestamp that the calendar has is written in a form that is read as the same timestamp. If its year has four
digits and it has an offset, the strict form fits; otherwise the strict form does not fit, and the first of the
easy forms that fits is the one with a `T`.

* `date?_writeDate`, `time?_writeTime`, `offset?_writeOffset`: the parts are read back.
* `read?_write`: the timestamp is read back.
* `normalize?_reads_back`: a timestamp in written form says what it said before, and is in written form.
-/

namespace Custodian.Timestamp

open Json (EndsDigits endsDigits_cons)
open Text (padNat)

variable {rest : Text}

/-! ### Parts of the written form -/

def writeDate (d : Date) : Text :=
  writeYear d.year ++ '-' :: (padNat 2 d.month ++ '-' :: padNat 2 d.day)

def writeTime (t : Time) : Text :=
  padNat 2 t.hour ++ ':' :: (padNat 2 t.minute ++ ':' :: (padNat 2 t.second ++ writeFraction t.nanosecond))

lemma write_eq (t : Timestamp) :
    t.write = writeDate t.date ++ 'T' :: (writeTime t.time ++ (t.offset.map writeOffset).getD []) := by
  simp [write, writeDate, writeTime]

lemma bounds_of_isValid {d : Date} (valid : d.isValid = true) : d.month < 100 ∧ d.day < 100 := by
  have hdays : Date.daysOf d.year d.month ≤ 31 := by
    unfold Date.daysOf
    split_ifs <;> decide
  simp only [Date.isValid, Bool.and_eq_true, decide_eq_true_eq] at valid
  omega

/-! ### Years -/

/-- Whether a year is written without a sign. -/
def IsPlainYear (year : Int) : Prop :=
  0 ≤ year ∧ year ≤ 9999

/-- The sign of a number that is written with one. -/
def signOf (n : Int) : Char :=
  if n < 0 then '-' else '+'

lemma signOf_cases (n : Int) : n < 0 ∧ signOf n = '-' ∨ 0 ≤ n ∧ signOf n = '+' := by
  rcases Int.lt_or_le n 0 with negative | positive
  · exact .inl ⟨negative, if_pos negative⟩
  · exact .inr ⟨positive, if_neg (Int.not_lt.2 positive)⟩

lemma writeYear_plain {year : Int} (plain : IsPlainYear year) : writeYear year = padNat 4 year.toNat :=
  if_pos plain

lemma writeYear_signed {year : Int} (signed : ¬IsPlainYear year) :
    writeYear year = signOf year :: padNat 4 year.natAbs :=
  if_neg signed

/-- A year of the strict form. -/
def strictYear? (t : Text) : Option (Int × Text) :=
  (number? 4 4 t).map fun (n, rest) => ((n : Int), rest)

lemma number?_writeYear {year : Int} (plain : IsPlainYear year) {least : Nat} (fewer : least ≤ 4) (rest : Text) :
    (number? least 4 (writeYear year ++ rest)).map (fun (n, rest) => ((n : Int), rest)) = some (year, rest) := by
  have hlt : year.toNat < 10 ^ 4 := by
    have := plain.2
    omega
  rw [writeYear_plain plain, number?_padNat (by decide) hlt fewer]
  exact congrArg (fun y => some (y, rest)) (Int.toNat_of_nonneg plain.1)

lemma strictYear?_plain {year : Int} (plain : IsPlainYear year) (rest : Text) :
    strictYear? (writeYear year ++ rest) = some (year, rest) :=
  number?_writeYear plain (by decide) rest

lemma strictYear?_signed {year : Int} (signed : ¬IsPlainYear year) (rest : Text) :
    strictYear? (writeYear year ++ rest) = none := by
  have hsign : (signOf year).isDigit = false := by
    rcases signOf_cases year with ⟨-, hsign⟩ | ⟨-, hsign⟩ <;> rw [hsign] <;> rfl
  rw [strictYear?, writeYear_signed signed, List.cons_append, number?_cons_of_not_digit hsign _ (by decide)]
  rfl

lemma easyYear?_minus (t : Text) :
    easyYear? ('-' :: t) = (number? 1 t.length t).map fun (n, rest) => (-(n : Int), rest) := rfl

lemma easyYear?_plus (t : Text) :
    easyYear? ('+' :: t) = (number? 1 t.length t).map fun (n, rest) => ((n : Int), rest) := rfl

lemma easyYear?_writeYear (year : Int) (ends : EndsDigits rest) :
    easyYear? (writeYear year ++ rest) = some (year, rest) := by
  by_cases plain : IsPlainYear year
  · have hplain := number?_writeYear plain (by decide : 1 ≤ 4) rest
    obtain ⟨c, t, ht, digit⟩ := Text.exists_padNat_eq_cons (by decide : 0 < 4) year.toNat
    rw [writeYear_plain plain, ht, List.cons_append] at hplain ⊢
    rw [easyYear?, Text.trimBlanksStart_cons (Text.isBlank_of_isDigit digit)]
    -- a digit is no sign
    split
    · next heq => cases heq; cases digit
    · next heq => cases heq; cases digit
    · exact hplain
  · rw [writeYear_signed plain, List.cons_append]
    have hopen : number? 1 (padNat 4 year.natAbs ++ rest).length (padNat 4 year.natAbs ++ rest) =
        some (year.natAbs, rest) := number?_padNat_open (by decide) ends
    rcases signOf_cases year with ⟨negative, hsign⟩ | ⟨positive, hsign⟩
    · have hvalue : -(year.natAbs : Int) = year := by omega
      rw [hsign, easyYear?_minus, hopen]
      exact congrArg (fun y => some (y, rest)) hvalue
    · have hvalue : (year.natAbs : Int) = year := Int.natAbs_of_nonneg positive
      rw [hsign, easyYear?_plus, hopen]
      exact congrArg (fun y => some (y, rest)) hvalue

/-! ### Dates -/

/-- A reader of two-digit numbers reads back every number that has no more digits. -/
def ReadsTwoDigits (number? : Text → Option (Nat × Text)) : Prop :=
  ∀ n < 100, ∀ rest, number? (padNat 2 n ++ rest) = some (n, rest)

lemma readsTwoDigits_strict : ReadsTwoDigits (number? 2 2) :=
  fun _ h rest => number?_padNat (by decide) h (by decide) rest

lemma readsTwoDigits_easy : ReadsTwoDigits easyNumber? :=
  fun _ h rest => easyNumber?_padNat h rest

lemma after?_cons (c : Char) (t : Text) : Text.after? [c] (c :: t) = some t :=
  Text.after?_eq_some_iff.2 rfl

lemma date?_writeDate {year? : Text → Option (Int × Text)} {number? : Text → Option (Nat × Text)} {d : Date}
    (hyear : ∀ rest, year? (writeYear d.year ++ '-' :: rest) = some (d.year, '-' :: rest))
    (hnumber : ReadsTwoDigits number?) (valid : d.isValid = true) (rest : Text) :
    date? year? number? (writeDate d ++ rest) = some (d, rest) := by
  obtain ⟨hmonth, hday⟩ := bounds_of_isValid valid
  simp only [date?, writeDate, List.append_assoc, List.cons_append, hyear, Option.bind_eq_bind, Option.bind_some,
    after?_cons, hnumber _ hmonth, hnumber _ hday]
  rfl

/-! ### Times -/

/-- A fraction that is not zero is written in three, six or nine digits. -/
lemma writeFraction_cases {nanosecond : Nat} (h : nanosecond ≠ 0) :
    ∃ width, (width = 3 ∨ width = 6 ∨ width = 9) ∧ nanosecond % 10 ^ (9 - width) = 0 ∧
      writeFraction nanosecond = '.' :: padNat width (nanosecond / 10 ^ (9 - width)) := by
  unfold writeFraction
  rw [if_neg h]
  split_ifs with milli micro
  · exact ⟨3, .inl rfl, milli, rfl⟩
  · exact ⟨6, .inr (.inl rfl), micro, rfl⟩
  · exact ⟨9, .inr (.inr rfl), Nat.mod_one _, by rw [Nat.sub_self, Nat.pow_zero, Nat.div_one]⟩

lemma length_fraction {nanosecond width : Nat} (small : nanosecond < 10 ^ 9)
    (hwidth : width = 3 ∨ width = 6 ∨ width = 9) :
    (padNat width (nanosecond / 10 ^ (9 - width))).length = width := by
  have hpow : 10 ^ (9 - width) * 10 ^ width = 10 ^ 9 := by
    rw [← Nat.pow_add]
    congr 1
    omega
  exact Text.length_padNat (by omega) (Nat.div_lt_of_lt_mul (by rw [hpow]; exact small))

/-- Whether a text goes on with neither a digit nor a fraction. -/
def EndsSecond (t : Text) : Prop :=
  ∀ c ∈ t.head?, c.isDigit = false ∧ c ≠ '.'

lemma EndsSecond.endsDigits (h : EndsSecond rest) : EndsDigits rest :=
  fun c hc => (h c hc).1

lemma fraction?_writeFraction {nanosecond : Nat} (h : nanosecond < 10 ^ 9) (ends : EndsSecond rest) :
    fraction? (writeFraction nanosecond ++ rest) = some (nanosecond, rest) := by
  by_cases zero : nanosecond = 0
  · subst zero
    rcases rest with _ | ⟨c, rest⟩
    · rfl
    · have hpoint := (ends c rfl).2
      rw [writeFraction, if_pos rfl, List.nil_append, fraction?]
      rintro _ ⟨⟩
      exact hpoint rfl
  · obtain ⟨width, hwidth, hmod, hwrite⟩ := writeFraction_cases zero
    have hlength := length_fraction h hwidth
    have hdigits : digits? 1 9 (padNat width (nanosecond / 10 ^ (9 - width)) ++ rest) = some (_, rest) :=
      digits?_append (fun c => Text.isDigit_of_mem_padNat) (by omega) (.inr ⟨by omega, ends.endsDigits⟩)
    rw [hwrite, List.cons_append, fraction?, hdigits]
    dsimp only [Option.bind_eq_bind, Option.bind_some]
    rw [Text.toNat?_padNat, Option.bind_some, hlength, dropWhile_isDigit ends.endsDigits]
    have hvalue : nanosecond / 10 ^ (9 - width) * 10 ^ (9 - width) = nanosecond :=
      Nat.div_mul_cancel (Nat.dvd_of_mod_eq_zero hmod)
    exact congrArg (fun n => some (n, rest)) hvalue

lemma time?_writeTime {number? : Text → Option (Nat × Text)} {t : Time} (hnumber : ReadsTwoDigits number?)
    (valid : t.isValid = true) (ends : EndsSecond rest) :
    time? number? (writeTime t ++ rest) = some (t, rest) := by
  simp only [Time.isValid, Bool.and_eq_true, decide_eq_true_eq] at valid
  obtain ⟨⟨⟨hhour, hminute⟩, hsecond⟩, hnano⟩ := valid
  simp only [time?, writeTime, List.append_assoc, List.cons_append, Option.bind_eq_bind, Option.bind_some,
    after?_cons, hnumber t.hour (by omega), hnumber t.minute (by omega), hnumber t.second (by omega),
    fraction?_writeFraction hnano ends]
  rfl

/-! ### Offsets -/

lemma sign?_signOf (n : Int) (t : Text) : sign? (signOf n :: t) = some (decide (n < 0), t) := by
  rcases signOf_cases n with ⟨negative, hsign⟩ | ⟨positive, hsign⟩
  · rw [hsign, decide_eq_true negative]
    rfl
  · rw [hsign, decide_eq_false (Int.not_lt.2 positive)]
    rfl

lemma offset?_writeOffset {between : Text → Option Text} {minutes : Int} (small : isOffset minutes = true)
    (hbetween : ∀ n rest, between (':' :: (padNat 2 n ++ rest)) = some (padNat 2 n ++ rest)) (rest : Text) :
    offset? between (writeOffset minutes ++ rest) = some (minutes, rest) := by
  have hsmall : minutes.natAbs < 24 * 60 := by simpa [isOffset] using small
  have hhours : minutes.natAbs / 60 < 100 := by omega
  have hminutes : minutes.natAbs % 60 < 100 := by omega
  have hfew : ¬59 < minutes.natAbs % 60 := by omega
  have hwrite : writeOffset minutes ++ rest = signOf minutes ::
      (padNat 2 (minutes.natAbs / 60) ++ ':' :: (padNat 2 (minutes.natAbs % 60) ++ rest)) := by
    simp [writeOffset, signOf]
  have hvalue : (if decide (minutes < 0) = true then
      -((minutes.natAbs / 60 : Nat) * 60 + (minutes.natAbs % 60 : Nat) : Int) else
      ((minutes.natAbs / 60 : Nat) * 60 + (minutes.natAbs % 60 : Nat) : Int)) = minutes := by
    simp only [decide_eq_true_eq]
    split_ifs <;> omega
  simp only [offset?, hwrite, sign?_signOf, readsTwoDigits_strict _ hhours, hbetween,
    readsTwoDigits_strict _ hminutes, Option.bind_eq_bind, Option.bind_some, if_neg hfew]
  exact congrArg (fun m => some (m, rest)) hvalue

lemma writeOffset_eq (minutes : Int) : ∃ t, writeOffset minutes = signOf minutes :: t :=
  ⟨_, rfl⟩

lemma strictOffset?_writeOffset {minutes : Int} (small : isOffset minutes = true) (rest : Text) :
    strictOffset? (writeOffset minutes ++ rest) = some (minutes, rest) := by
  have hoffset := offset?_writeOffset small (fun n rest => after?_cons ':' (padNat 2 n ++ rest)) rest
  obtain ⟨t, ht⟩ := writeOffset_eq minutes
  rw [← hoffset, ht, List.cons_append]
  rcases signOf_cases minutes with ⟨-, hsign⟩ | ⟨-, hsign⟩ <;> rw [hsign] <;> rfl

lemma easyOffset?_writeOffset {minutes : Int} (small : isOffset minutes = true) (rest : Text) :
    easyOffset? (writeOffset minutes ++ rest) = some (minutes, rest) := by
  have hbetween : ∀ (n : Nat) (rest : Text),
      some ((':' :: (padNat 2 n ++ rest)).dropWhile separates) = some (padNat 2 n ++ rest) := by
    intro n rest
    obtain ⟨c, t, ht, digit⟩ := Text.exists_padNat_eq_cons (by decide : 0 < 2) n
    have hstop : separates c = false := by
      have hcolon : c ≠ ':' := by
        rintro rfl
        cases digit
      simp [separates, hcolon, Text.isBlank_of_isDigit digit]
    rw [ht, List.cons_append, List.dropWhile_cons_of_pos rfl, List.dropWhile_cons_of_neg (by simp [hstop])]
  obtain ⟨t, ht⟩ := writeOffset_eq minutes
  have htrim : Text.trimBlanksStart (writeOffset minutes ++ rest) = writeOffset minutes ++ rest := by
    rw [ht, List.cons_append]
    rcases signOf_cases minutes with ⟨-, hsign⟩ | ⟨-, hsign⟩ <;> rw [hsign] <;> rfl
  rw [easyOffset?, htrim]
  exact offset?_writeOffset small hbetween rest

lemma easyOffset?_nil : easyOffset? [] = none := rfl

/-! ### Forms -/

/-- What stands between date and time of the strict form. -/
def strictGap? : Text → Option Text
  | 'T' :: t | 't' :: t | ' ' :: t => some t
  | _ => none

lemma strict?_eq (t : Text) : strict? t =
    (date? strictYear? (number? 2 2) t).bind fun (date, t) =>
      (strictGap? t).bind fun t =>
        (time? (number? 2 2) t).bind fun (time, t) =>
          (strictOffset? t).bind fun (offset, t) => complete? ⟨date, time, some offset⟩ t := by
  refine congrArg ((date? strictYear? (number? 2 2) t).bind) (funext ?_)
  rintro ⟨date, t⟩
  dsimp only
  split
  · rfl
  · rfl
  · rfl
  · have hnone : strictGap? t = none := by
      unfold strictGap?
      split <;> simp_all
    rw [hnone]
    rfl

lemma strictGap?_letter (t : Text) : strictGap? ('T' :: t) = some t := rfl

/-- What follows the time in the written form. -/
def zone (t : Timestamp) : Text :=
  (t.offset.map writeOffset).getD []

lemma zone_endsSecond (t : Timestamp) : EndsSecond (zone t) := by
  unfold zone
  rcases t.offset with _ | minutes
  · nofun
  · obtain ⟨rest, hrest⟩ := writeOffset_eq minutes
    rw [Option.map_some, Option.getD_some, hrest]
    rintro c ⟨⟩
    rcases signOf_cases minutes with ⟨-, hsign⟩ | ⟨-, hsign⟩ <;> rw [hsign] <;> decide

/-- The strict form does not fit a year with a sign. -/
lemma strict?_write_signed {t : Timestamp} (signed : ¬IsPlainYear t.date.year) : strict? t.write = none := by
  rw [write_eq, strict?_eq, writeDate, List.append_assoc, date?, strictYear?_signed signed]
  rfl

section Forms

variable {t : Timestamp} (valid : t.isValid = true)

include valid

lemma date_isValid : t.date.isValid = true := by
  simp only [isValid, Bool.and_eq_true] at valid
  exact valid.1.1

lemma time_isValid : t.time.isValid = true := by
  simp only [isValid, Bool.and_eq_true] at valid
  exact valid.1.2

lemma isOffset_of_isValid {minutes : Int} (offset : t.offset = some minutes) : isOffset minutes = true := by
  simp only [isValid, offset, Bool.and_eq_true] at valid
  exact valid.2.1.1

lemma complete?_nil : complete? t [] = some t := by
  simp [complete?, valid]

/-- The strict form is read up to the zone if the year has no sign. -/
lemma strict?_write_plain (plain : IsPlainYear t.date.year) :
    strict? t.write = (strictOffset? (zone t)).bind fun (offset, rest) =>
      complete? ⟨t.date, t.time, some offset⟩ rest := by
  have hdate := date?_writeDate (fun rest => strictYear?_plain plain ('-' :: rest)) readsTwoDigits_strict
    (date_isValid valid) ('T' :: (writeTime t.time ++ zone t))
  have htime := time?_writeTime readsTwoDigits_strict (time_isValid valid) (zone_endsSecond t)
  rw [write_eq, strict?_eq, ← zone, hdate, Option.bind_some]
  dsimp only
  rw [strictGap?_letter, Option.bind_some, htime]
  rfl

/-- The easy form with a `T` is read up to the zone. -/
lemma easy?_write : easy? .letter t.write = some (t.date, t.time, zone t) := by
  have hdate := date?_writeDate (fun rest => easyYear?_writeYear t.date.year (endsDigits_cons rfl rest))
    readsTwoDigits_easy (date_isValid valid) ('T' :: (writeTime t.time ++ zone t))
  have htime := time?_writeTime readsTwoDigits_easy (time_isValid valid) (zone_endsSecond t)
  rw [write_eq, easy?, ← zone, hdate]
  simp only [Option.bind_eq_bind, Option.bind_some, Gap.read?, after?_cons]
  rw [htime]
  rfl

/-- The easy form with blanks does not fit: a `T` is no number. -/
lemma easy?_blanks_write : easy? .blanks t.write = none := by
  have hdate := date?_writeDate (fun rest => easyYear?_writeYear t.date.year (endsDigits_cons rfl rest))
    readsTwoDigits_easy (date_isValid valid) ('T' :: (writeTime t.time ++ zone t))
  rw [write_eq, easy?, ← zone, hdate]
  rfl

end Forms

/-! ### Outer blanks -/

/-- Whether a text ends in a digit. -/
def EndsInDigit (t : Text) : Prop :=
  ∃ init c, t = init ++ [c] ∧ c.isDigit = true

lemma endsInDigit_padNat {width : Nat} (positive : 0 < width) (n : Nat) : EndsInDigit (padNat width n) := by
  obtain ⟨c, t, ht, -⟩ := Text.exists_padNat_eq_cons positive n
  have hne : padNat width n ≠ [] := by
    rw [ht]
    nofun
  exact ⟨_, _, (List.dropLast_concat_getLast hne).symm, Text.isDigit_of_mem_padNat (List.getLast_mem hne)⟩

lemma EndsInDigit.append {t : Text} (h : EndsInDigit t) (lead : Text) : EndsInDigit (lead ++ t) := by
  obtain ⟨init, c, rfl, digit⟩ := h
  exact ⟨lead ++ init, c, (List.append_assoc _ _ _).symm, digit⟩

lemma EndsInDigit.cons {t : Text} (h : EndsInDigit t) (c : Char) : EndsInDigit (c :: t) :=
  h.append [c]

lemma endsInDigit_write (t : Timestamp) : EndsInDigit t.write := by
  have hminutes : ∀ minutes, EndsInDigit (writeOffset minutes) := fun minutes =>
    ((endsInDigit_padNat (by decide : 0 < 2) (minutes.natAbs % 60)).cons ':').append _
  have hsecond : EndsInDigit (padNat 2 t.time.second ++ writeFraction t.time.nanosecond) := by
    by_cases zero : t.time.nanosecond = 0
    · rw [zero, writeFraction, if_pos rfl, List.append_nil]
      exact endsInDigit_padNat (by decide) _
    · obtain ⟨width, hwidth, -, hwrite⟩ := writeFraction_cases zero
      rw [hwrite]
      exact ((endsInDigit_padNat (by omega) _).cons '.').append _
  have htime : EndsInDigit (writeTime t.time) := (((hsecond.cons ':').append _).cons ':').append _
  rw [write_eq]
  refine EndsInDigit.append (EndsInDigit.cons ?_ 'T') _
  rcases t.offset with _ | minutes
  · simpa using htime
  · exact (hminutes minutes).append _

lemma exists_writeYear_eq_cons (year : Int) : ∃ c t, writeYear year = c :: t ∧ Text.isBlank c = false := by
  by_cases plain : IsPlainYear year
  · obtain ⟨c, t, ht, digit⟩ := Text.exists_padNat_eq_cons (by decide : 0 < 4) year.toNat
    exact ⟨c, t, by rw [writeYear_plain plain, ht], Text.isBlank_of_isDigit digit⟩
  · refine ⟨_, _, writeYear_signed plain, ?_⟩
    rcases signOf_cases year with ⟨-, hsign⟩ | ⟨-, hsign⟩ <;> rw [hsign] <;> rfl

/-- There are no blanks around the written form. -/
lemma trimBlanks_write (t : Timestamp) : Text.trimBlanks t.write = t.write := by
  obtain ⟨c, year, hyear, first⟩ := exists_writeYear_eq_cons t.date.year
  have hstart : Text.trimStart Text.isBlank t.write = t.write := by
    rw [write_eq, writeDate, hyear]
    exact Text.trimBlanksStart_cons first _
  obtain ⟨init, last, hwrite, digit⟩ := endsInDigit_write t
  rw [Text.trimBlanks, Text.trim, hstart, Text.trimEnd, hwrite, List.reverse_append, List.reverse_singleton,
    List.singleton_append, List.dropWhile_cons_of_neg (by simp [Text.isBlank_of_isDigit digit]),
    List.reverse_cons, List.reverse_reverse]

/-! ### The timestamp -/

/-- Reads a timestamp in one of the forms with an offset. -/
def readWithOffset? (t : Text) : Option Timestamp :=
  strict? t <|> easyWithOffset? .letter t <|> easyWithOffset? .blanks t

/-- Reads a timestamp in one of the forms without an offset. -/
def readLocal? (t : Text) : Option Timestamp :=
  easyLocal? .letter t <|> easyLocal? .blanks t <|> dateOnly? t

lemma read?_eq (t : Text) :
    read? t = (readWithOffset? (Text.trimBlanks t) <|> readLocal? (Text.trimBlanks t)) := by
  unfold read? readWithOffset? readLocal?
  dsimp only
  generalize Text.trimBlanks t = t
  rcases strict? t with _ | found
  · rcases easyWithOffset? .letter t with _ | found
    · rcases easyWithOffset? .blanks t with _ | found <;> rfl
    · rfl
  · rfl

section ReadBack

variable {t : Timestamp} (valid : t.isValid = true)

include valid

/-- A timestamp with an offset is read back in the strict form, or with a sign in front of its year in the easy
form. -/
lemma readWithOffset?_write {minutes : Int} (offset : t.offset = some minutes) :
    readWithOffset? t.write = some t := by
  have small := isOffset_of_isValid valid offset
  have hzone : zone t = writeOffset minutes ++ [] := by rw [zone, offset, List.append_nil]; rfl
  have htimestamp : (⟨t.date, t.time, some minutes⟩ : Timestamp) = t := by rw [← offset]
  by_cases plain : IsPlainYear t.date.year
  · have hstrict : strict? t.write = some t := by
      rw [strict?_write_plain valid plain, hzone, strictOffset?_writeOffset small, Option.bind_some]
      dsimp only
      rw [htimestamp, complete?_nil valid]
    rw [readWithOffset?, hstrict]
    rfl
  · have heasy : easyWithOffset? .letter t.write = some t := by
      rw [easyWithOffset?, easy?_write valid]
      dsimp only [Option.bind_eq_bind, Option.bind_some]
      rw [hzone, easyOffset?_writeOffset small, Option.bind_some]
      dsimp only
      rw [htimestamp, complete?_nil valid]
    rw [readWithOffset?, strict?_write_signed plain, heasy]
    rfl

/-- No form with an offset fits a timestamp that has none. -/
lemma readWithOffset?_write_local (absent : t.offset = none) : readWithOffset? t.write = none := by
  have hzone : zone t = [] := by rw [zone, absent]; rfl
  have hstrict : strict? t.write = none := by
    by_cases plain : IsPlainYear t.date.year
    · rw [strict?_write_plain valid plain, hzone]
      rfl
    · exact strict?_write_signed plain
  have hletter : easyWithOffset? .letter t.write = none := by
    rw [easyWithOffset?, easy?_write valid]
    dsimp only [Option.bind_eq_bind, Option.bind_some]
    rw [hzone, easyOffset?_nil, Option.bind_none]
  have hblanks : easyWithOffset? .blanks t.write = none := by
    rw [easyWithOffset?, easy?_blanks_write valid]
    rfl
  rw [readWithOffset?, hstrict, hletter, hblanks]
  rfl

lemma readLocal?_write (absent : t.offset = none) : readLocal? t.write = some t := by
  have hzone : zone t = [] := by rw [zone, absent]; rfl
  have htimestamp : (⟨t.date, t.time, none⟩ : Timestamp) = t := by rw [← absent]
  have hlocal : easyLocal? .letter t.write = some t := by
    rw [easyLocal?, easy?_write valid]
    dsimp only [Option.bind_eq_bind, Option.bind_some]
    rw [hzone, htimestamp, complete?_nil valid]
  rw [readLocal?, hlocal]
  rfl

/-- **A timestamp that was written is read back**: the date, the time with its fraction, a leap second, and the
offset, or that there is none. -/
theorem read?_write : read? t.write = some t := by
  rw [read?_eq, trimBlanks_write]
  rcases offset : t.offset with _ | minutes
  · rw [readWithOffset?_write_local valid offset, readLocal?_write valid offset]
    rfl
  · rw [readWithOffset?_write valid offset]
    rfl

end ReadBack

/-! ### What is read -/

section Read

variable {t : Timestamp} {raw : Text}

lemma of_complete? {found : Timestamp} (h : complete? found rest = some t) : found = t ∧ t.isValid = true := by
  unfold complete? at h
  split at h
  · next complete =>
    cases h
    simp only [Bool.and_eq_true] at complete
    exact ⟨rfl, complete.2⟩
  · cases h

lemma of_strict? (h : strict? raw = some t) : t.isValid = true ∧ t.offset.isSome = true := by
  rw [strict?_eq] at h
  simp only [Option.bind_eq_some_iff] at h
  obtain ⟨⟨date, _⟩, -, _, -, ⟨time, _⟩, -, ⟨offset, rest⟩, -, hcomplete⟩ := h
  obtain ⟨rfl, valid⟩ := of_complete? hcomplete
  exact ⟨valid, rfl⟩

lemma of_easyWithOffset? {gap : Gap} (h : easyWithOffset? gap raw = some t) :
    t.isValid = true ∧ t.offset.isSome = true := by
  simp only [easyWithOffset?, Option.bind_eq_bind, Option.bind_eq_some_iff] at h
  obtain ⟨⟨date, time, _⟩, -, ⟨offset, rest⟩, -, hcomplete⟩ := h
  obtain ⟨rfl, valid⟩ := of_complete? hcomplete
  exact ⟨valid, rfl⟩

lemma of_easyLocal? {gap : Gap} (h : easyLocal? gap raw = some t) : t.isValid = true ∧ t.offset = none := by
  simp only [easyLocal?, Option.bind_eq_bind, Option.bind_eq_some_iff] at h
  obtain ⟨⟨date, time, rest⟩, -, hcomplete⟩ := h
  obtain ⟨rfl, valid⟩ := of_complete? hcomplete
  exact ⟨valid, rfl⟩

lemma of_dateOnly? (h : dateOnly? raw = some t) : t.isValid = true ∧ t.offset = none := by
  simp only [dateOnly?, Option.bind_eq_bind, Option.bind_eq_some_iff] at h
  obtain ⟨⟨date, rest⟩, -, hcomplete⟩ := h
  obtain ⟨rfl, valid⟩ := of_complete? hcomplete
  exact ⟨valid, rfl⟩

lemma of_readWithOffset? (h : readWithOffset? raw = some t) : t.isValid = true ∧ t.offset.isSome = true := by
  simp only [readWithOffset?, Option.orElse_eq_some] at h
  rcases h with strict | ⟨-, letter | ⟨-, blanks⟩⟩
  · exact of_strict? strict
  · exact of_easyWithOffset? letter
  · exact of_easyWithOffset? blanks

lemma of_readLocal? (h : readLocal? raw = some t) : t.isValid = true ∧ t.offset = none := by
  simp only [readLocal?, Option.orElse_eq_some] at h
  rcases h with letter | ⟨-, blanks | ⟨-, date⟩⟩
  · exact of_easyLocal? letter
  · exact of_easyLocal? blanks
  · exact of_dateOnly? date

/-- What is read is in the calendar, and it has an offset exactly if a form with an offset fits. -/
lemma of_read? (h : read? raw = some t) :
    t.isValid = true ∧ t.offset.isSome = (readWithOffset? (Text.trimBlanks raw)).isSome := by
  rw [read?_eq, Option.orElse_eq_some] at h
  rcases h with offset | ⟨none, naive⟩
  · obtain ⟨valid, present⟩ := of_readWithOffset? offset
    exact ⟨valid, by rw [present, offset]; rfl⟩
  · obtain ⟨valid, absent⟩ := of_readLocal? naive
    exact ⟨valid, by rw [absent, none]; rfl⟩

end Read

/-! ### The fraction in the written form -/

/-- The digits behind the first point of a text, if it has a point. -/
def fractionDigits? (t : Text) : Option Text :=
  match t.dropWhile (· ≠ '.') with
  | [] => none
  | _ :: t => some (t.takeWhile Char.isDigit)

lemma fractionDigits?_append {front : Text} (h : '.' ∉ front) (rest : Text) :
    fractionDigits? (front ++ rest) = fractionDigits? rest := by
  have hall : ∀ c ∈ front, decide (c ≠ '.') = true := by
    intro c hc
    rw [decide_eq_true_eq]
    rintro rfl
    exact h hc
  rw [fractionDigits?, List.dropWhile_append_of_pos hall]
  rfl

lemma fractionDigits?_of_not_mem {t : Text} (h : '.' ∉ t) : fractionDigits? t = none := by
  have hdigits := fractionDigits?_append h []
  rwa [List.append_nil] at hdigits

lemma point_not_mem_padNat (width n : Nat) : '.' ∉ padNat width n :=
  fun h => by cases Text.isDigit_of_mem_padNat h

lemma signOf_ne_point (n : Int) : '.' ≠ signOf n := by
  rcases signOf_cases n with ⟨-, hsign⟩ | ⟨-, hsign⟩ <;> rw [hsign] <;> decide

lemma point_not_mem_writeYear (year : Int) : '.' ∉ writeYear year := by
  by_cases plain : IsPlainYear year
  · rw [writeYear_plain plain]
    exact point_not_mem_padNat _ _
  · rw [writeYear_signed plain]
    simp [signOf_ne_point, point_not_mem_padNat]

lemma point_not_mem_zone (t : Timestamp) : '.' ∉ zone t := by
  unfold zone
  rcases t.offset with _ | minutes
  · nofun
  · have hwrite : writeOffset minutes = signOf minutes :: padNat 2 (minutes.natAbs / 60) ++
        ':' :: padNat 2 (minutes.natAbs % 60) := rfl
    simp [hwrite, signOf_ne_point, point_not_mem_padNat]

/-- The written form up to the second. -/
lemma exists_write_eq_append (t : Timestamp) :
    ∃ front, '.' ∉ front ∧ t.write = front ++ (writeFraction t.time.nanosecond ++ zone t) := by
  refine ⟨writeDate t.date ++ 'T' :: (padNat 2 t.time.hour ++ ':' ::
    (padNat 2 t.time.minute ++ ':' :: padNat 2 t.time.second)), ?_, ?_⟩
  · simp [writeDate, point_not_mem_writeYear, point_not_mem_padNat]
  · simp [write_eq, writeTime, zone]

/-- There are digits of a fraction exactly if the time has one, in groups of three. -/
lemma fractionDigits?_write {t : Timestamp} (valid : t.isValid = true) :
    (fractionDigits? t.write = none ↔ t.time.nanosecond = 0) ∧
      ∀ ds, fractionDigits? t.write = some ds → ds.length = 3 ∨ ds.length = 6 ∨ ds.length = 9 := by
  obtain ⟨front, hfront, hwrite⟩ := exists_write_eq_append t
  rw [hwrite, fractionDigits?_append hfront]
  by_cases zero : t.time.nanosecond = 0
  · rw [zero, writeFraction, if_pos rfl, List.nil_append, fractionDigits?_of_not_mem (point_not_mem_zone t)]
    exact ⟨iff_of_true rfl rfl, nofun⟩
  · obtain ⟨width, hwidth, -, hfraction⟩ := writeFraction_cases zero
    have small := time_isValid valid
    simp only [Time.isValid, Bool.and_eq_true, decide_eq_true_eq] at small
    have hdigits : fractionDigits? (writeFraction t.time.nanosecond ++ zone t) =
        some (padNat width (t.time.nanosecond / 10 ^ (9 - width))) := by
      rw [hfraction, List.cons_append]
      have hends : (zone t).takeWhile Char.isDigit = [] := takeWhile_isDigit (zone_endsSecond t).endsDigits
      refine congrArg some ?_
      rw [List.takeWhile_append_of_pos fun c => Text.isDigit_of_mem_padNat, hends, List.append_nil]
    rw [hdigits]
    refine ⟨iff_of_false nofun zero, ?_⟩
    rintro ds ⟨⟩
    rw [length_fraction small.2 hwidth]
    exact hwidth

/-- **A timestamp in written form** says what it said before: it is read as the same date, the same time with its
fraction and with a leap second, and with the same offset or without one, as it had one or not in the form in
which it was read first. It has a fraction exactly if that is not zero, with three, six or nine digits. And it
is in written form already. -/
theorem normalize?_reads_back {raw written : Text} (h : normalize? raw = some written) :
    ∃ t, read? raw = some t ∧ read? written = some t ∧ normalize? written = some written ∧
      t.offset.isSome = (readWithOffset? (Text.trimBlanks raw)).isSome ∧
      t.offset.isSome = (readWithOffset? (Text.trimBlanks written)).isSome ∧
      (fractionDigits? written = none ↔ t.time.nanosecond = 0) ∧
      ∀ ds, fractionDigits? written = some ds → ds.length = 3 ∨ ds.length = 6 ∨ ds.length = 9 := by
  obtain ⟨t, hread, rfl⟩ := Option.map_eq_some_iff.1 h
  obtain ⟨valid, hoffset⟩ := of_read? hread
  have hback := read?_write valid
  exact ⟨t, hread, hback, congrArg (Option.map write) hback, hoffset, (of_read? hback).2,
    fractionDigits?_write valid⟩

/-- A leap second of a year with a sign, in a form with blanks and few digits. -/
theorem normalize?_reads_back_leap_second :
    let raw : Text := " +12016-3-1  9:30:60.25 +0200"
    let written : Text := "+12016-03-01T09:30:60.250+02:00"
    normalize? raw = some written ∧
      ∃ t, read? raw = some t ∧ read? written = some t ∧ normalize? written = some written ∧
        t.offset.isSome = (readWithOffset? (Text.trimBlanks raw)).isSome ∧
        t.offset.isSome = (readWithOffset? (Text.trimBlanks written)).isSome ∧
        (fractionDigits? written = none ↔ t.time.nanosecond = 0) ∧
        ∀ ds, fractionDigits? written = some ds → ds.length = 3 ∨ ds.length = 6 ∨ ds.length = 9 := by
  intro raw written
  have h : normalize? raw = some written := by decide +kernel
  exact ⟨h, normalize?_reads_back h⟩

/-- A date alone is written as its midnight, without an offset. -/
example : normalize? " 2015-12-15" = some "2015-12-15T00:00:00" := by decide +kernel

end Custodian.Timestamp
