import Custodian.Number.Binary64

/-!
# The shortest decimal of a double

The decimals that read back as a double are those in an interval around it: half the way to
either neighbour, the ends included if the significand is even. On each decimal grid `10 ^ k` the
two neighbours of the double are the only candidates. The coarsest grid with a candidate in the
interval gives the fewest digits, and of two candidates the nearer one is taken, on a tie the even
one.
-/

namespace Custodian.Binary64

/-- A decimal: `digits * 10 ^ exponent`. -/
structure Decimal where
  digits : Nat
  exponent : Int
deriving DecidableEq, Repr

/-- The numbers that round to a double: the fractions between `lower / den` and `upper / den`,
of which the double itself is `value / den`. -/
structure Interval where
  lower : Nat
  value : Nat
  upper : Nat
  den : Nat
  /-- Whether the ends belong to it. -/
  closed : Bool

/-- The interval of a double; the gap below a power of two is half the gap above. -/
def interval (x : Binary64) : Interval :=
  let m := x.significand
  let below := if m = significands / 2 ∧ leastExponent < x.exponent then 1 else 2
  let (value, den) := scale (4 * m) 4 x.exponent
  let (lower, _) := scale (4 * m - below) 4 x.exponent
  let (upper, _) := scale (4 * m + 2) 4 x.exponent
  ⟨lower, value, upper, den, m % 2 == 0⟩

/-- Whether a fraction lies in the interval. -/
def Interval.holds (i : Interval) (num den : Nat) : Bool :=
  if i.closed then decide (i.lower * den ≤ num * i.den ∧ num * i.den ≤ i.upper * den)
  else decide (i.lower * den < num * i.den ∧ num * i.den < i.upper * den)

/-- The multiple of `10 ^ k` in the interval that is nearest to the value, if there is one. -/
def Interval.onGrid? (i : Interval) (k : Int) : Option Nat :=
  let (gridNum, gridDen) : Nat × Nat :=
    match k with
    | .ofNat n => (Nat.pow 10 n, 1)
    | .negSucc n => (1, Nat.pow 10 (n + 1))
  let floor := i.value * gridDen / (i.den * gridNum)
  let nearest := roundEven (i.value * gridDen) (i.den * gridNum)
  let other := if nearest = floor then floor + 1 else floor
  if i.holds (nearest * gridNum) gridDen then some nearest
  else if i.holds (other * gridNum) gridDen then some other
  else none

/-- The first grid with a candidate among `k`, `k - 1`, …. -/
def Interval.search (i : Interval) : Nat → Int → Option Decimal
  | 0, _ => none
  | tries + 1, k =>
    match i.onGrid? k with
    | some d => if d = 0 then i.search tries (k - 1) else some ⟨d, k⟩
    | none => i.search tries (k - 1)

/-- The shortest decimal that reads back as the double; zero is its own. -/
def shortest (x : Binary64) : Decimal :=
  if x.isZero then ⟨0, 0⟩
  else
    let binary : Int := x.significand.log2 + x.exponent
    let start : Int := (binary + 1) * 30103 / 100000 + 1
    ((interval x).search 24 start).getD ⟨0, 0⟩

end Custodian.Binary64
