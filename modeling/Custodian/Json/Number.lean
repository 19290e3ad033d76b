import Custodian.Number.Shortest
import Custodian.Text.Basic

/-!
# JSON numbers

A number is an integer of 64 bits or a double. A numeral without fraction and exponent is an
integer if it fits the signed or the unsigned range; every other one is a double, also `-0`.

A double is read from at most the leading digits that fit 64 unsigned bits, and the power of ten is
then applied by one multiplication or by divisions, each of them rounded.
-/

namespace Custodian.Json

/-- A number of a JSON value. -/
inductive Number where
  | integer (n : Int)
  | double (x : Binary64)
deriving DecidableEq

/-- A numeral, split into its parts; the digits are values from 0 to 9. -/
structure Numeral where
  negative : Bool
  /-- The digits before the point. -/
  whole : List Nat
  /-- The digits after the point, if there is one. -/
  fraction : Option (List Nat)
  /-- Whether the exponent is negative, and its digits. -/
  exponent : Option (Bool × List Nat)
deriving DecidableEq

namespace Numeral

/-- One more than the greatest unsigned integer of 64 bits. -/
def limit : Nat := Nat.pow 2 64

/-- Adds digits to a significand as long as it stays in range; `none` beside it once one did not. -/
def gather (significand : Nat) : List Nat → Nat × List Nat
  | [] => (significand, [])
  | d :: digits =>
    if significand * 10 + d < limit then gather (significand * 10 + d) digits
    else (significand, d :: digits)

/-- The significand and the power of ten that the digits amount to. Digits before the point that do
not fit count as zeros, digits after it that do not fit are dropped. -/
def significand (numeral : Numeral) : Nat × Int :=
  let (whole, dropped) := gather 0 numeral.whole
  let fraction := numeral.fraction.getD []
  let (all, left) := gather whole fraction
  (all, (dropped.length : Int) - ((fraction.length - left.length : Nat) : Int))

/-- The greatest exponent that is read as a number. -/
def greatestExponent : Nat := Nat.pow 2 31 - 1

/-- The greatest power of ten that is applied in one step. -/
def longestStep : Nat := 308

/-- Divides as many times by the longest step; zero stays as it is. -/
def divideSteps : Nat → Binary64 → Option Binary64
  | 0, x => some x
  | steps + 1, x =>
    if x.isZero then some x
    else match (Binary64.powerOfTen? longestStep).bind x.div? with
      | none => none
      | some y => divideSteps steps y

/-- Divides by a power of ten, the remainder after the longest steps last. -/
def divide (x : Binary64) (power : Nat) : Option Binary64 :=
  let steps := (power - 1) / longestStep
  (divideSteps steps x).bind fun y =>
    if y.isZero then some y else (Binary64.powerOfTen? (power - longestStep * steps)).bind y.div?

/-- Applies a power of ten; `none` beyond the greatest double. -/
def applyPower (x : Binary64) (power : Int) : Option Binary64 :=
  match power with
  | .ofNat n =>
    if n ≤ longestStep then (Binary64.powerOfTen? n).bind x.mul?
    else if x.isZero then some x else none
  | .negSucc n => divide x (n + 1)

/-- The double a numeral writes. An exponent out of range makes zero if it is negative or the
significand is zero, and is refused otherwise. -/
def toDouble? (numeral : Numeral) : Option Binary64 := do
  let (significand, power) := numeral.significand
  let x ← match numeral.exponent with
    | none => (Binary64.ofNat? significand).bind (applyPower · power)
    | some (negative, digits) =>
      let e := Text.ofDigits 10 digits
      if greatestExponent < e then
        if significand ≠ 0 ∧ !negative then none else some (Binary64.zero false)
      else
        let total := if negative then power - e else power + e
        (Binary64.ofNat? significand).bind (applyPower · total)
  return if numeral.negative then x.neg else x

/-- The integer a numeral writes, if it has neither fraction nor exponent and is in range. -/
def toInteger? (numeral : Numeral) : Option Int :=
  if numeral.fraction.isSome || numeral.exponent.isSome then none
  else
    let n := Text.ofDigits 10 numeral.whole
    if numeral.negative then
      if 0 < n ∧ n ≤ Nat.pow 2 63 then some (-(n : Int)) else none
    else if n < limit then some n else none

end Numeral

namespace Number

/-- The number a numeral writes, if it is not beyond the range of doubles. -/
def ofNumeral? (numeral : Numeral) : Option Number :=
  match numeral.toInteger? with
  | some n => some (.integer n)
  | none => numeral.toDouble?.map .double

/-! ### Writing -/

/-- The least power of ten of the first digit that is written positionally. -/
def leastPositional : Int := -5

/-- The least power of ten of the first digit that is written with an exponent again. -/
def endPositional : Int := 16

/-- A decimal with the digits `digits` and the point after the first one times a power of ten:
positionally with at least one digit after the point, or with a signed exponent. -/
def writeDecimal (digits : Text) (power : Int) : Text :=
  if leastPositional ≤ power ∧ power < endPositional then
    match power with
    | .ofNat n =>
      if n + 1 < digits.length then digits.take (n + 1) ++ '.' :: digits.drop (n + 1)
      else digits ++ List.replicate (n + 1 - digits.length) '0' ++ ['.', '0']
    | .negSucc n => '0' :: '.' :: (List.replicate n '0' ++ digits)
  else
    let fraction := if digits.length ≤ 1 then [] else '.' :: digits.drop 1
    let sign := if power < 0 then '-' else '+'
    digits.take 1 ++ fraction ++ 'e' :: sign :: Text.ofNat power.natAbs

/-- The shortest text of a double. -/
def writeDouble (x : Binary64) : Text :=
  let sign : Text := if x.negative then ['-'] else []
  if x.isZero then sign ++ ['0', '.', '0']
  else
    let decimal := x.shortest
    let digits := Text.ofNat decimal.digits
    sign ++ writeDecimal digits (decimal.exponent + digits.length - 1)

def write : Number → Text
  | .integer n => Text.ofInt n
  | .double x => writeDouble x

end Number

end Custodian.Json
