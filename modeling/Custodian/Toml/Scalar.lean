import Custodian.Number.Binary64
import Custodian.Timestamp.Reader
import Custodian.Toml.Item

/-!
# TOML scalars

Strings come in four kinds, with and without escapes, on one line and on several. Of numbers and
times only the form and the range are checked. Every reader returns what follows the scalar.
-/

namespace Custodian.Toml

/-! ### Characters -/

def isWhite (c : Char) : Bool :=
  c = ' ' || c = '\t'

/-- Whether a character may stand in a comment or a string: no control character but the tab. -/
def isPlain (c : Char) : Bool :=
  c = '\t' || (0x20 ≤ c.toNat && c.toNat ≠ 0x7F)

def lineEnd? : Text → Option Text
  | '\n' :: t => some t
  | '\r' :: '\n' :: t => some t
  | _ => none

/-- What follows the blanks and line ends at the beginning. -/
def skipLines : Text → Text
  | ' ' :: t => skipLines t
  | '\t' :: t => skipLines t
  | '\n' :: t => skipLines t
  | '\r' :: '\n' :: t => skipLines t
  | t => t

/-! ### Strings -/

/-- The character that a one-letter escape stands for. -/
def escaped? : Char → Option Char
  | 'b' => some '\x08'
  | 'f' => some '\x0c'
  | 'n' => some '\n'
  | 'r' => some '\r'
  | 't' => some '\t'
  | '\\' => some '\\'
  | '"' => some '"'
  | _ => none

/-- The character of a code point in so many hexadecimal digits. -/
def codePoint? (width : Nat) (t : Text) : Option (Char × Text) := do
  let ds := t.take width
  let n ← Text.toNat? 16 ds
  if ds.length = width ∧ n.isValidChar then some (Char.ofNat n, t.drop width) else none

/-- Reads an escape after its backslash. -/
def escape? (t : Text) : Option (Char × Text) :=
  match t with
  | 'u' :: t => codePoint? 4 t
  | 'U' :: t => codePoint? 8 t
  | c :: t => (escaped? c).map fun c => (c, t)
  | [] => none

/-- Reads a string with escapes on one line, after its opening quote. -/
def basic? (t : Text) : Option (Text × Text) :=
  match t with
  | [] => none
  | '"' :: rest => some ([], rest)
  | '\\' :: code => do
    let (c, rest) ← escape? code
    if _h : rest.length ≤ code.length then
      let (s, rest) ← basic? rest
      return (c :: s, rest)
    else none
  | c :: rest => if isPlain c then (basic? rest).map fun (s, rest) => (c :: s, rest) else none
termination_by t.length

/-- Reads a string without escapes on one line, after its opening quote. -/
def literal? : Text → Option (Text × Text)
  | [] => none
  | '\'' :: t => some ([], t)
  | c :: t => if isPlain c then (literal? t).map fun (s, rest) => (c :: s, rest) else none

def isTripled (quote : Char) (t : Text) : Bool :=
  Text.beginsWith [quote, quote, quote] t

/-- Reads the end of a string on several lines, which is three quotes; up to two more in front of them
belong to the string. -/
def closing (quote : Char) (t : Text) : Text × Text :=
  let extra := min (((t.takeWhile (· = quote)).take 5).length - 3) 2
  (List.replicate extra quote, t.drop (extra + 3))

/-- Reads a string with escapes on several lines, after its opening quotes. A backslash at the end of a
line joins it to the next text. -/
def longBasic? (t : Text) : Option (Text × Text) :=
  if isTripled '"' t then some (closing '"' t)
  else match t with
  | [] => none
  | '\\' :: code =>
    match (lineEnd? (code.dropWhile isWhite)).map skipLines with
    | some joined => if _h : joined.length ≤ code.length then longBasic? joined else none
    | none => do
      let (c, rest) ← escape? code
      if _h : rest.length ≤ code.length then
        let (s, rest) ← longBasic? rest
        return (c :: s, rest)
      else none
  | '\n' :: rest => (longBasic? rest).map fun (s, rest) => ('\n' :: s, rest)
  | '\r' :: '\n' :: rest => (longBasic? rest).map fun (s, rest) => ('\n' :: s, rest)
  | c :: rest => if isPlain c then (longBasic? rest).map fun (s, rest) => (c :: s, rest) else none
termination_by t.length

/-- Reads a string without escapes on several lines, after its opening quotes. -/
def longLiteral? (t : Text) : Option (Text × Text) :=
  if isTripled '\'' t then some (closing '\'' t)
  else match t with
  | [] => none
  | '\n' :: rest => (longLiteral? rest).map fun (s, rest) => ('\n' :: s, rest)
  | '\r' :: '\n' :: rest => (longLiteral? rest).map fun (s, rest) => ('\n' :: s, rest)
  | c :: rest =>
    if isPlain c then (longLiteral? rest).map fun (s, rest) => (c :: s, rest) else none

/-- The text after the line end that may follow the opening quotes of a string on several lines. -/
def skipFirstEnd (t : Text) : Text :=
  (lineEnd? t).getD t

def string? : Text → Option (Text × Text)
  | '"' :: '"' :: '"' :: t => longBasic? (skipFirstEnd t)
  | '\'' :: '\'' :: '\'' :: t => longLiteral? (skipFirstEnd t)
  | '"' :: t => basic? t
  | '\'' :: t => literal? t
  | _ => none

/-! ### Numbers -/

/-- Reads digits, with single underscores between them. -/
def digits? (isDigit : Char → Bool) : Text → Option (Text × Text)
  | [] => none
  | c :: t =>
    if isDigit c then
      match t with
      | '_' :: t' => match digits? isDigit t' with
        | some (ds, rest) => some (c :: ds, rest)
        | none => some ([c], t)
      | t => match digits? isDigit t with
        | some (ds, rest) => some (c :: ds, rest)
        | none => some ([c], t)
    else none

/-- Reads a sign, if there is one: whether it is a minus. -/
def sign : Text → Bool × Text
  | '-' :: t => (true, t)
  | '+' :: t => (false, t)
  | t => (false, t)

/-- Reads a decimal integer: a zero stands alone. -/
def whole? (t : Text) : Option (Bool × Text × Text) :=
  let (negative, t) := sign t
  match t with
  | '0' :: t => some (negative, ['0'], t)
  | t => (digits? Char.isDigit t).map fun (ds, rest) => (negative, ds, rest)

/-- Whether an integer fits 64 bits. -/
def fits (negative : Bool) (n : Nat) : Bool :=
  if negative then n ≤ Nat.pow 2 63 else n < Nat.pow 2 63

/-- Reads an integer with a base other than ten, after the letter of the base. -/
def basedInteger? (base : Nat) (t : Text) : Option Text := do
  let (ds, rest) ← digits? (fun c => (Text.digit? base c).isSome) t
  let n ← Text.toNat? base ds
  if fits false n then some rest else none

def integer? (t : Text) : Option Text :=
  match t with
  | '0' :: 'x' :: t => basedInteger? 16 t
  | '0' :: 'o' :: t => basedInteger? 8 t
  | '0' :: 'b' :: t => basedInteger? 2 t
  | t => do
    let (negative, ds, rest) ← whole? t
    let n ← Text.toNat? 10 ds
    if fits negative n then some rest else none

/-- The digits after a point; none if no point follows. -/
def fraction? : Text → Option (Text × Text)
  | '.' :: t => digits? Char.isDigit t
  | t => some ([], t)

/-- The exponent after its letter; zero if no letter follows. -/
def exponent? : Text → Option (Bool × Text × Text)
  | c :: t =>
    if c = 'e' ∨ c = 'E' then
      let (negative, t) := sign t
      (digits? Char.isDigit t).map fun (ds, rest) => (negative, ds, rest)
    else some (false, [], c :: t)
  | [] => some (false, [], [])

/-- Whether a decimal is beyond the greatest double. Beyond some power of ten all are, whatever their
digits. -/
def isHuge (digits : Text) (power : Int) : Bool :=
  let n := Text.ofDigits 10 (digits.filterMap (Text.digit? 10))
  if n = 0 then false
  else if power ≤ 0 then
    let places := power.natAbs
    if digits.length < places then false else (Binary64.round? false n (Nat.pow 10 places) 0).isNone
  else if 400 < power then true
  else (Binary64.round? false (n * Nat.pow 10 power.toNat) 1 0).isNone

/-- Reads a number with a fraction or an exponent, or one of the two words for special numbers. A number
that is too large is refused, unless it is negative. -/
def float? (t : Text) : Option Text :=
  let (_, special) := sign t
  match Text.after? "inf" special <|> Text.after? "nan" special with
  | some rest => some rest
  | none => do
    let (negative, ds, afterWhole) ← whole? t
    let (fraction, afterFraction) ← fraction? afterWhole
    let (down, exponent, rest) ← exponent? afterFraction
    if rest.length = afterWhole.length then none
    else
      let e := Text.ofDigits 10 (exponent.filterMap (Text.digit? 10))
      let power : Int := (if down then -(e : Int) else e) - fraction.length
      if !negative && isHuge (ds ++ fraction) power then none else some rest

/-! ### Times -/

/-- Reads a number of so many digits between two bounds. -/
def field? (width least most : Nat) (t : Text) : Option (Nat × Text) :=
  (Timestamp.number? width width t).filter fun (n, _) => least ≤ n && n ≤ most

def date? (t : Text) : Option Text := do
  let (year, t) ← field? 4 0 9999 t
  let (month, t) ← field? 2 1 12 (← Text.after? ['-'] t)
  let (_, t) ← field? 2 1 (Date.daysOf year month) (← Text.after? ['-'] t)
  return t

def timeOfDay? (t : Text) : Option Text := do
  let (_, t) ← field? 2 0 23 t
  let (_, t) ← field? 2 0 59 (← Text.after? [':'] t)
  let (_, t) ← field? 2 0 60 (← Text.after? [':'] t)
  match t with
  | '.' :: rest =>
    let after := rest.dropWhile Char.isDigit
    return if after.length < rest.length then after else t
  | t => return t

/-- Reads an offset, if there is one. -/
def skipOffset (t : Text) : Text :=
  match t with
  | 'Z' :: t => t
  | 'z' :: t => t
  | c :: rest =>
    if c = '+' ∨ c = '-' then
      (do
        let (_, rest) ← field? 2 0 23 rest
        let (_, rest) ← field? 2 0 59 (← Text.after? [':'] rest)
        return rest : Option Text).getD t
    else t
  | [] => t

/-- Reads a date, a time, or both. -/
def time? (t : Text) : Option Text :=
  match date? t with
  | some rest =>
    match rest with
    | c :: next =>
      if c = 'T' ∨ c = 't' ∨ c = ' ' then
        match timeOfDay? next with
        | some rest => some (skipOffset rest)
        | none => some rest
      else some rest
    | [] => some rest
  | none => timeOfDay? t

end Custodian.Toml
