/-!
# Texts

A text is the list of its characters, so every operation on texts is an operation on lists.
The order of texts is the order of lists of code points; it is also the order of their
UTF-8 bytes.

This module holds the cuts and searches the rest of the library speaks in: trimming by a class
of characters, splitting at a separator, lines, and numbers in digits.
-/

namespace Custodian

/-- A text is the list of its characters. -/
abbrev Text := List Char

instance : Coe String Text := ⟨String.toList⟩

namespace Text

/-! ### Trimming -/

/-- The text without its leading characters of class `p`. -/
def trimStart (p : Char → Bool) (t : Text) : Text :=
  t.dropWhile p

/-- The text without its trailing characters of class `p`. -/
def trimEnd (p : Char → Bool) (t : Text) : Text :=
  (t.reverse.dropWhile p).reverse

/-- The text without its outer characters of class `p`. -/
def trim (p : Char → Bool) (t : Text) : Text :=
  trimEnd p (trimStart p t)

/-! ### Beginnings and ends -/

/-- What follows `lead` in the text, if the text begins with it. -/
def after? (lead : Text) (t : Text) : Option Text :=
  match lead, t with
  | [], t => some t
  | _ :: _, [] => none
  | a :: lead, b :: t => if a = b then after? lead t else none

theorem after?_eq_some_iff {lead t rest : Text} :
    after? lead t = some rest ↔ t = lead ++ rest := by
  induction lead generalizing t with
  | nil => simp [after?]
  | cons a lead ih =>
    cases t with
    | nil => simp [after?]
    | cons b t => by_cases h : a = b <;> simp [after?, h, ih, eq_comm]

/-- Whether the text begins with `lead`. -/
def beginsWith (lead : Text) (t : Text) : Bool :=
  (after? lead t).isSome

/-! ### Splitting and joining -/

/-- The pieces between the separators: one more than there are separators. -/
def splitOn (sep : Char) : Text → List Text
  | [] => [[]]
  | c :: t =>
    if c = sep then [] :: splitOn sep t
    else match splitOn sep t with
      | [] => [[c]]
      | piece :: pieces => (c :: piece) :: pieces

/-- The pieces with `sep` between each two. -/
def join (sep : Text) (pieces : List Text) : Text :=
  sep.intercalate pieces

theorem splitOn_ne_nil (sep : Char) (t : Text) : splitOn sep t ≠ [] := by
  cases t with
  | nil => simp [splitOn]
  | cons c t => unfold splitOn; split <;> (try split) <;> simp

/-- Splitting loses nothing. -/
theorem join_splitOn (sep : Char) (t : Text) : join [sep] (splitOn sep t) = t := by
  induction t with
  | nil => rfl
  | cons c t ih =>
    unfold splitOn
    split
    · next h =>
      cases hs : splitOn sep t with
      | nil => exact absurd hs (splitOn_ne_nil sep t)
      | cons p ps => rw [hs] at ih; simp_all [join, List.intercalate, List.intersperse]
    · cases hs : splitOn sep t with
      | nil => exact absurd hs (splitOn_ne_nil sep t)
      | cons p ps =>
        rw [hs] at ih
        cases ps <;> simp_all [join, List.intercalate, List.intersperse]

/-- The part before the first `sep` and the part after the last one of the split at it. -/
def cutLast? (sep : Char) (t : Text) : Option (Text × Text) :=
  match splitOn sep t with
  | [] => none
  | [_] => none
  | pieces => some (join [sep] pieces.dropLast, pieces.getLastD [])

/-- A line without the carriage return that ends it, if one does. -/
def dropReturn (t : Text) : Text :=
  if t.getLast? = some '\r' then t.dropLast else t

/-- The lines: each ends at a line feed, which with one carriage return before it is dropped;
what follows the last line feed is a line, verbatim, if it is not empty. -/
def lines (t : Text) : List Text :=
  let pieces := splitOn '\n' t
  let unended := pieces.getLastD []
  pieces.dropLast.map dropReturn ++ if unended.isEmpty then [] else [unended]

/-! ### Classes, case and order -/

/-- Whether a character lies in one of some ranges of code points. -/
def isInRanges (ranges : List (Nat × Nat)) (c : Char) : Bool :=
  ranges.any fun (first, last) => first ≤ c.toNat && c.toNat ≤ last

/-- The text with ASCII capitals written small. -/
def toLower (t : Text) : Text :=
  t.map Char.toLower

/-- The texts in ascending order, equal ones in a row. -/
def sort (ts : List Text) : List Text :=
  ts.mergeSort fun a b => !decide (b < a)

/-! ### Numbers -/

/-- The decimal digits of a natural number, without leading zeros. -/
def ofNat (n : Nat) : Text :=
  Nat.toDigits 10 n

/-- The decimal digits of an integer, after a minus sign if it is negative. -/
def ofInt : Int → Text
  | .ofNat n => ofNat n
  | .negSucc n => '-' :: ofNat (n + 1)

/-- The value of a digit in a base of at most sixteen. -/
def digit? (base : Nat) (c : Char) : Option Nat :=
  let value :=
    if '0' ≤ c ∧ c ≤ '9' then some (c.toNat - '0'.toNat)
    else if 'a' ≤ c ∧ c ≤ 'f' then some (c.toNat - 'a'.toNat + 10)
    else if 'A' ≤ c ∧ c ≤ 'F' then some (c.toNat - 'A'.toNat + 10)
    else none
  value.filter (· < base)

/-- The number that digits of a base write, the first digit weighing most. -/
def ofDigits (base : Nat) (digits : List Nat) : Nat :=
  digits.foldl (fun n d => n * base + d) 0

/-- The number a text of digits writes, if it is one or more digits of the base and no other
character. -/
def toNat? (base : Nat) (t : Text) : Option Nat :=
  if t.isEmpty then none else (t.mapM (digit? base)).map (ofDigits base)

/-- A number written with `width` digits, zeros in front. -/
def padNat (width n : Nat) : Text :=
  let digits := ofNat n
  List.replicate (width - digits.length) '0' ++ digits

end Text

end Custodian
