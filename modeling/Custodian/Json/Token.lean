import Custodian.Json.Number

/-!
# JSON tokens

A JSON text is a sequence of tokens with blanks between them. A string token holds its text, or
`none` if one of its escapes names half of a surrogate pair: such a string is a token like any
other, but it has no text. A numeral is kept as it is written.

A token that is read leaves less than there was (`length_of_next?`), so a text has an end.
-/

namespace Custodian.Json

/-- A token of a JSON text. -/
inductive Token where
  | openArray
  | closeArray
  | openObject
  | closeObject
  | comma
  | colon
  | null
  | bool (b : Bool)
  | numeral (n : Numeral)
  | string (t : Option Text)
deriving DecidableEq

namespace Token

/-! ### Strings -/

/-- A piece of a string: a character, or the unit of sixteen bits that an escape names. -/
inductive Piece where
  | char (c : Char)
  | unit (n : Nat)

/-- The character that a one-letter escape stands for. -/
def escaped? : Char → Option Char
  | '"' => some '"'
  | '\\' => some '\\'
  | '/' => some '/'
  | 'b' => some '\x08'
  | 'f' => some '\x0c'
  | 'n' => some '\n'
  | 'r' => some '\r'
  | 't' => some '\t'
  | _ => none

/-- Reads the pieces of a string after its opening quote, and what follows its closing one. -/
def pieces? : Text → Option (List Piece × Text)
  | [] => none
  | '"' :: t => some ([], t)
  | '\\' :: 'u' :: a :: b :: c :: d :: t => do
    let n ← Text.toNat? 16 [a, b, c, d]
    let (ps, rest) ← pieces? t
    return (.unit n :: ps, rest)
  | '\\' :: e :: t => do
    let c ← escaped? e
    let (ps, rest) ← pieces? t
    return (.char c :: ps, rest)
  | c :: t =>
    if c.toNat < 0x20 ∨ c = '\\' then none
    else do
      let (ps, rest) ← pieces? t
      return (.char c :: ps, rest)

theorem length_of_pieces? {t rest : Text} {ps : List Piece} (h : pieces? t = some (ps, rest)) :
    rest.length < t.length := by
  fun_induction pieces? t generalizing ps rest <;>
    simp_all only [Option.bind_eq_bind, Option.bind_eq_some_iff, Option.pure_def,
      Option.some.injEq, Prod.mk.injEq, Prod.exists, List.length_cons, reduceCtorEq] <;>
    grind

/-- Whether a unit is the first half of a surrogate pair. -/
def isHigh (n : Nat) : Bool :=
  0xD800 ≤ n && n < 0xDC00

/-- Whether a unit is the second half of a surrogate pair. -/
def isLow (n : Nat) : Bool :=
  0xDC00 ≤ n && n < 0xE000

/-- The text of the pieces, two halves of a pair making one character; none if a half stands
alone. -/
def joinPieces? : List Piece → Option Text
  | [] => some []
  | .char c :: ps => (joinPieces? ps).map (c :: ·)
  | .unit n :: ps =>
    if isHigh n then
      match ps with
      | .unit m :: ps =>
        if isLow m then
          (joinPieces? ps).map (Char.ofNat (0x10000 + (n - 0xD800) * 0x400 + (m - 0xDC00)) :: ·)
        else none
      | _ => none
    else if isLow n then none
    else (joinPieces? ps).map (Char.ofNat n :: ·)

/-! ### Numerals -/

/-- The values of the leading digits, and what follows them. -/
def digits (t : Text) : List Nat × Text :=
  ((t.takeWhile Char.isDigit).filterMap (Text.digit? 10), t.dropWhile Char.isDigit)

theorem length_digits_le (t : Text) : (digits t).2.length ≤ t.length :=
  (List.dropWhile_sublist _).length_le

theorem length_digits_lt {t : Text} (h : (digits t).1.isEmpty = false) :
    (digits t).2.length < t.length := by
  cases t with
  | nil => simp [digits] at h
  | cons c t =>
    by_cases hc : c.isDigit
    · simpa [digits, hc, Nat.lt_succ_iff] using (List.dropWhile_sublist _).length_le
    · simp [digits, hc] at h

/-- Whether a minus sign leads the text, and what follows it. -/
def minus : Text → Bool × Text
  | '-' :: t => (true, t)
  | t => (false, t)

theorem length_minus_le (t : Text) : (minus t).2.length ≤ t.length := by
  unfold minus; split <;> simp

/-- Whether a minus sign leads the text, and what follows the sign, be it plus or minus. -/
def sign : Text → Bool × Text
  | '+' :: t => (false, t)
  | t => minus t

theorem length_sign_le (t : Text) : (sign t).2.length ≤ t.length := by
  unfold sign
  split
  · simp
  · exact length_minus_le t

/-- Reads the digits after a point, if a point follows. -/
def fraction? (t : Text) : Option (Option (List Nat) × Text) :=
  match t with
  | '.' :: t =>
    let (ds, rest) := digits t
    if ds.isEmpty then none else some (some ds, rest)
  | t => some (none, t)

theorem length_of_fraction? {t rest : Text} {f : Option (List Nat)}
    (h : fraction? t = some (f, rest)) : rest.length ≤ t.length := by
  unfold fraction? at h
  split at h
  · rename_i t
    have := length_digits_le t
    grind
  · grind

/-- Reads an exponent, if one follows. -/
def exponent? (t : Text) : Option (Option (Bool × List Nat) × Text) :=
  match t with
  | c :: t' =>
    if c = 'e' ∨ c = 'E' then
      let (negative, t') := sign t'
      let (ds, rest) := digits t'
      if ds.isEmpty then none else some (some (negative, ds), rest)
    else some (none, t)
  | [] => some (none, t)

theorem length_of_exponent? {t rest : Text} {e : Option (Bool × List Nat)}
    (h : exponent? t = some (e, rest)) : rest.length ≤ t.length := by
  unfold exponent? at h
  split at h
  · rename_i c t
    have := length_sign_le t
    have := length_digits_le (sign t).2
    grind
  · grind

/-- Reads a numeral; a zero in front of other digits is refused. -/
def numeral? (t : Text) : Option (Numeral × Text) := do
  let (negative, t) := minus t
  let (whole, t) := digits t
  if whole.isEmpty ∨ (whole.head? = some 0 ∧ 1 < whole.length) then none
  else
    let (fraction, t) ← fraction? t
    let (exponent, t) ← exponent? t
    return (⟨negative, whole, fraction, exponent⟩, t)

theorem length_of_numeral? {t rest : Text} {n : Numeral} (h : numeral? t = some (n, rest)) :
    rest.length < t.length := by
  simp only [numeral?] at h
  split at h
  · simp at h
  · rename_i hn
    simp only [Option.bind_eq_bind, Option.bind_eq_some_iff, Option.pure_def, Option.some.injEq,
      Prod.mk.injEq, Prod.exists] at h
    obtain ⟨f, r, hf, e, r', he, _, rfl⟩ := h
    have h1 := length_of_fraction? hf
    have h2 := length_of_exponent? he
    have h3 : (digits (minus t).2).2.length < (minus t).2.length :=
      length_digits_lt (by simpa using fun hd => hn (.inl (by simp [hd])))
    have h4 := length_minus_le t
    omega

/-! ### The sequence of tokens -/

def isBlank (c : Char) : Bool :=
  c = ' ' || c = '\t' || c = '\n' || c = '\r'

def word? (t : Text) : Option (Token × Text) :=
  ((Text.after? "null" t).map fun rest => (.null, rest)) <|>
    ((Text.after? "true" t).map fun rest => (.bool true, rest)) <|>
    ((Text.after? "false" t).map fun rest => (.bool false, rest))

/-- Reads the token that a text begins with. -/
def next? (t : Text) : Option (Token × Text) :=
  match t with
  | '[' :: t => some (.openArray, t)
  | ']' :: t => some (.closeArray, t)
  | '{' :: t => some (.openObject, t)
  | '}' :: t => some (.closeObject, t)
  | ',' :: t => some (.comma, t)
  | ':' :: t => some (.colon, t)
  | '"' :: t => (pieces? t).map fun (ps, rest) => (.string (joinPieces? ps), rest)
  | t => word? t <|> (numeral? t).map fun (n, rest) => (.numeral n, rest)

theorem length_of_word? {t rest : Text} {token : Token} (h : word? t = some (token, rest)) :
    rest.length < t.length := by
  simp [word?, Text.after?_eq_some_iff] at h
  grind

theorem length_of_next? {t rest : Text} {token : Token} (h : next? t = some (token, rest)) :
    rest.length < t.length := by
  unfold next? at h
  split at h
  case h_7 t =>
    simp only [Option.map_eq_some_iff, Prod.mk.injEq, Prod.exists] at h
    obtain ⟨ps, r, hr, _, rfl⟩ := h
    have := length_of_pieces? hr
    simp only [List.length_cons]; omega
  case h_8 =>
    simp only [Option.orElse_eq_orElse, Option.orElse_eq_or, Option.or_eq_some_iff,
      Option.map_eq_some_iff, Prod.mk.injEq, Prod.exists] at h
    rcases h with h | ⟨_, n, r, hr, _, rfl⟩
    · exact length_of_word? h
    · exact length_of_numeral? hr
  all_goals simp_all

/-- The tokens of a text, if it is nothing but tokens and blanks. -/
def all? (t : Text) : Option (List Token) :=
  match _hs : t.dropWhile isBlank with
  | [] => some []
  | c :: t' =>
    match _h : next? (c :: t') with
    | none => none
    | some (token, rest) => (all? rest).map (token :: ·)
termination_by t.length
decreasing_by
  have := length_of_next? _h
  have := (List.dropWhile_sublist isBlank (l := t)).length_le
  rw [_hs] at this; omega

end Token

end Custodian.Json
