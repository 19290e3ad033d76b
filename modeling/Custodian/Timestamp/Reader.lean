import Custodian.Text.Blank
import Custodian.Timestamp.Basic

/-!
# Reading timestamps

A timestamp is read in the first of these forms that fits all of the text, outer blanks aside:
the strict form of RFC 3339, whose fields have all their digits; the easy form with an offset; the
easy form without one; and a date alone, which is read as its midnight.

In the easy form a number may have fewer digits and blanks in front, a year with a sign any number of
digits, and a `T` or any blanks stand between date and time.
-/

namespace Custodian.Timestamp

/-! ### Numbers -/

/-- Reads the leading digits, `most` of them at the most and `least` at the least. -/
def digits? (least most : Nat) (t : Text) : Option (Text × Text) :=
  let ds := (t.take most).takeWhile Char.isDigit
  if ds.length < least then none else some (ds, t.drop ds.length)

/-- Reads a number with so many digits. -/
def number? (least most : Nat) (t : Text) : Option (Nat × Text) := do
  let (ds, rest) ← digits? least most t
  return (← Text.toNat? 10 ds, rest)

/-- Reads a number of at most two digits, blanks in front. -/
def easyNumber? (t : Text) : Option (Nat × Text) :=
  number? 1 2 (Text.trimBlanksStart t)

/-- Reads a year: up to four digits, or a sign and any number of digits, blanks in front. -/
def easyYear? (t : Text) : Option (Int × Text) :=
  match Text.trimBlanksStart t with
  | '-' :: rest => (number? 1 rest.length rest).map fun (n, rest) => (-(n : Int), rest)
  | '+' :: rest => (number? 1 rest.length rest).map fun (n, rest) => ((n : Int), rest)
  | rest => (number? 1 4 rest).map fun (n, rest) => ((n : Int), rest)

/-- Reads a fraction of a second, if a point follows; digits after the ninth do not count. -/
def fraction? (t : Text) : Option (Nat × Text) :=
  match t with
  | '.' :: t => do
    let (ds, rest) ← digits? 1 9 t
    let n ← Text.toNat? 10 ds
    return (n * Nat.pow 10 (9 - ds.length), rest.dropWhile Char.isDigit)
  | t => some (0, t)

/-! ### Offsets -/

/-- Reads the sign of an offset: whether it is a minus. -/
def sign? : Text → Option (Bool × Text)
  | '+' :: t => some (false, t)
  | '-' :: t => some (true, t)
  | '−' :: t => some (true, t)
  | _ => none

/-- Reads an offset; `between` reads what stands between hours and minutes. -/
def offset? (between : Text → Option Text) (t : Text) : Option (Int × Text) := do
  let (negative, t) ← sign? t
  let (hours, t) ← number? 2 2 t
  let (minutes, t) ← number? 2 2 (← between t)
  if 59 < minutes then none
  else
    let total : Int := hours * 60 + minutes
    return (if negative then -total else total, t)

/-- Reads the offset of the strict form, where a letter `Z` is offset zero. -/
def strictOffset? (t : Text) : Option (Int × Text) :=
  match t with
  | 'Z' :: t => some (0, t)
  | 'z' :: t => some (0, t)
  | t => offset? (Text.after? [':']) t

/-- Whether a character may stand between hours and minutes of an easy offset. -/
def separates (c : Char) : Bool :=
  c = ':' || Text.isBlank c

/-- Reads the offset of the easy form. -/
def easyOffset? (t : Text) : Option (Int × Text) :=
  offset? (fun t => some (t.dropWhile separates)) (Text.trimBlanksStart t)

/-! ### Dates and times -/

/-- Reads a date whose numbers are read by the arguments. -/
def date? (year? : Text → Option (Int × Text)) (number? : Text → Option (Nat × Text)) (t : Text) :
    Option (Date × Text) := do
  let (year, t) ← year? t
  let (month, t) ← number? (← Text.after? ['-'] t)
  let (day, t) ← number? (← Text.after? ['-'] t)
  return (⟨year, month, day⟩, t)

/-- Reads a time whose numbers are read by the argument. -/
def time? (number? : Text → Option (Nat × Text)) (t : Text) : Option (Time × Text) := do
  let (hour, t) ← number? t
  let (minute, t) ← number? (← Text.after? [':'] t)
  let (second, t) ← number? (← Text.after? [':'] t)
  let (nanosecond, t) ← fraction? t
  return (⟨hour, minute, second, nanosecond⟩, t)

/-- A timestamp that exists and of which nothing is left to read. -/
def complete? (t : Timestamp) (rest : Text) : Option Timestamp :=
  if rest.isEmpty && t.isValid then some t else none

def strict? (t : Text) : Option Timestamp := do
  let year? := fun t => (number? 4 4 t).map fun (n, rest) => ((n : Int), rest)
  let (date, t) ← date? year? (number? 2 2) t
  let t ← match t with
    | 'T' :: t | 't' :: t | ' ' :: t => some t
    | _ => none
  let (time, t) ← time? (number? 2 2) t
  let (offset, t) ← strictOffset? t
  complete? ⟨date, time, some offset⟩ t

/-- What may stand between date and time of the easy form. -/
inductive Gap where
  | letter
  | blanks

/-- Reads what stands between date and time. -/
def Gap.read? : Gap → Text → Option Text
  | .letter, t => Text.after? ['T'] t
  | .blanks, t => some (Text.trimBlanksStart t)

/-- Reads the date and time of the easy form. -/
def easy? (gap : Gap) (t : Text) : Option (Date × Time × Text) := do
  let (date, t) ← date? easyYear? easyNumber? t
  let (time, t) ← time? easyNumber? (← gap.read? t)
  return (date, time, t)

/-- Reads the easy form with an offset. -/
def easyWithOffset? (gap : Gap) (t : Text) : Option Timestamp := do
  let (date, time, t) ← easy? gap t
  let (offset, t) ← easyOffset? t
  complete? ⟨date, time, some offset⟩ t

/-- Reads the easy form without an offset. -/
def easyLocal? (gap : Gap) (t : Text) : Option Timestamp := do
  let (date, time, t) ← easy? gap t
  complete? ⟨date, time, none⟩ t

def dateOnly? (t : Text) : Option Timestamp := do
  let (date, t) ← date? easyYear? easyNumber? t
  complete? ⟨date, .midnight, none⟩ t

def read? (t : Text) : Option Timestamp :=
  let t := Text.trimBlanks t
  strict? t <|> easyWithOffset? .letter t <|> easyWithOffset? .blanks t <|>
    easyLocal? .letter t <|> easyLocal? .blanks t <|> dateOnly? t

/-- The timestamp in its written form. -/
def normalize? (t : Text) : Option Text :=
  (read? t).map write

end Custodian.Timestamp
