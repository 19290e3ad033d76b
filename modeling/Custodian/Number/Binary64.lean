/-!
# Binary floating point with 64 bits

A finite double is a sign, a significand and a power of two. Every operation here computes a
quotient of natural numbers exactly and then rounds once, to the nearest double and on a tie to the
one with an even significand. So the arithmetic is a definition on natural numbers, and nothing
depends on a machine's floating point.
-/

namespace Custodian

/-- A finite double: `significand * 2 ^ exponent`, negated if `negative`. -/
structure Binary64 where
  negative : Bool
  significand : Nat
  exponent : Int
deriving DecidableEq, Repr

namespace Binary64

/-- The exponent of the numbers next to zero. -/
def leastExponent : Int := -1074

/-- The exponent of the numbers next to the overflow. -/
def greatestExponent : Int := 971

/-- The number of values of a significand. -/
def significands : Nat := Nat.pow 2 53

def zero (negative : Bool) : Binary64 :=
  ⟨negative, 0, leastExponent⟩

def isZero (x : Binary64) : Bool :=
  x.significand == 0

/-- The number with the other sign. -/
def neg (x : Binary64) : Binary64 :=
  { x with negative := !x.negative }

/-! ### Rounding -/

/-- A fraction times a power of two, as a fraction. -/
def scale (num den : Nat) (power : Int) : Nat × Nat :=
  match power with
  | .ofNat n => (num * Nat.pow 2 n, den)
  | .negSucc n => (num, den * Nat.pow 2 (n + 1))

/-- The natural number nearest to a fraction, the even one of two. -/
def roundEven (num den : Nat) : Nat :=
  let q := num / den
  let r := num % den
  if 2 * r < den then q
  else if den < 2 * r then q + 1
  else if q % 2 = 0 then q else q + 1

/-- The double nearest to `num / den * 2 ^ power`, or `none` beyond the greatest one. -/
def round? (negative : Bool) (num den : Nat) (power : Int) : Option Binary64 :=
  if num = 0 then some (zero negative)
  else
    let estimate : Int := (num.log2 : Int) - (den.log2 : Int) + power - 53
    let low := max estimate leastExponent
    let (n, d) := scale num den (power - low)
    let exponent := if d * significands ≤ n then low + 1 else low
    let (n, d) := scale num den (power - exponent)
    let m := roundEven n d
    let (m, exponent) := if m = significands then (m / 2, exponent + 1) else (m, exponent)
    if greatestExponent < exponent then none else some ⟨negative, m, exponent⟩

/-- The double nearest to a natural number. -/
def ofNat? (n : Nat) : Option Binary64 :=
  round? false n 1 0

def mul? (x y : Binary64) : Option Binary64 :=
  round? (x.negative != y.negative) (x.significand * y.significand) 1 (x.exponent + y.exponent)

/-- The quotient by a number other than zero, rounded. -/
def div? (x y : Binary64) : Option Binary64 :=
  round? (x.negative != y.negative) x.significand y.significand (x.exponent - y.exponent)

/-- The double nearest to a power of ten. -/
def powerOfTen? (n : Nat) : Option Binary64 :=
  ofNat? (Nat.pow 10 n)

end Binary64

end Custodian
