import BatchInference.Num.Rounding

/-!
The shortest decimal that reads back as a given floating-point magnitude, and of the shortest ones the nearest.
The reals that round to a magnitude form an interval around it, whose ends belong to it when the significand is
even. For one digit, two digits and so on, the two neighbours of the magnitude on the decimal grid with that
many digits are tested against the interval in exact arithmetic; the first grid with a hit gives the answer.
-/

namespace BatchInference

/-- `coefficient * 10 ^ exponent`. -/
structure Decimal where
  coefficient : Nat
  exponent : Int
  deriving Repr, DecidableEq

/-- Which of two equally near decimals is taken. -/
inductive DecimalTie where
  | up
  | even
  deriving Repr, DecidableEq

namespace Decimal

def digits (d : Decimal) : List Char := Nat.toDigits 10 d.coefficient

/-- Where the decimal point stands: the value is `0.d₁d₂… * 10 ^ point`. -/
def point (d : Decimal) : Int := d.digits.length + d.exponent

/-- Moves trailing zeros of the coefficient into the exponent; `fuel` bounds their number. -/
def dropZeros : Nat → Decimal → Decimal
  | 0, d => d
  | fuel + 1, d =>
    if d.coefficient % 10 = 0 then dropZeros fuel ⟨d.coefficient / 10, d.exponent + 1⟩ else d

end Decimal

namespace Shortest

/-- The interval of reals that round to a magnitude, all in units of `1 / unit`. -/
structure Interval where
  low : Nat
  value : Nat
  high : Nat
  unit : Nat
  closed : Bool

/-- The interval of a finite encoded magnitude. Below a power of two the numbers lie twice as dense. -/
def Interval.ofCode (f : BinaryFormat) (code : Nat) : Interval :=
  let (m, e) := f.decode code
  let below := if m = 1 <<< (f.precision - 1) && decide (-(f.depth : Int) < e) then 1 else 2
  let scale := if 2 ≤ e then 1 <<< (e - 2).toNat else 1
  let unit := if 2 ≤ e then 1 else 1 <<< (2 - e).toNat
  ⟨(4 * m - below) * scale, 4 * m * scale, (4 * m + 2) * scale, unit, m % 2 = 0⟩

/-- The power of ten just above a positive quotient: `10 ^ (p - 1) ≤ num / den < 10 ^ p`. -/
def decimalPoint (num den : Nat) : Int :=
  if den ≤ num then (Nat.toDigits 10 (num / den)).length
  else
    let length := (Nat.toDigits 10 (den / num)).length
    if den = num * Nat.pow 10 (length - 1) then 2 - (length : Int) else 1 - (length : Int)

/-- `coefficient * 10 ^ exponent` and `bound / unit`, both as whole numbers of one common unit. -/
def common (coefficient : Nat) (exponent : Int) (bound unit : Nat) : Nat × Nat :=
  if 0 ≤ exponent then (coefficient * Nat.pow 10 exponent.toNat * unit, bound)
  else (coefficient * unit, bound * Nat.pow 10 (-exponent).toNat)

def Interval.contains (i : Interval) (coefficient : Nat) (exponent : Int) : Bool :=
  let (c, low) := common coefficient exponent i.low i.unit
  let (_, high) := common coefficient exponent i.high i.unit
  if i.closed then low ≤ c && c ≤ high else low < c && c < high

def Interval.onGrid (i : Interval) (tie : DecimalTie) (exponent : Int) : Option Decimal :=
  let (one, value) := common 1 exponent i.value i.unit
  let low := value / one
  let rest := value % one
  let lowIn := i.contains low exponent
  let highIn := i.contains (low + 1) exponent
  if lowIn && highIn then
    let takeHigh : Bool :=
      if 2 * rest = one then (match tie with | .up => true | .even => low % 2 == 1)
      else decide (one < 2 * rest)
    some ⟨if takeHigh then low + 1 else low, exponent⟩
  else if lowIn then some ⟨low, exponent⟩
  else if highIn then some ⟨low + 1, exponent⟩
  else none

/-- Tries `count` more grids, each ten times as fine as the one before. -/
def search (i : Interval) (tie : DecimalTie) : (count : Nat) → (exponent : Int) → Option Decimal
  | 0, _ => none
  | count + 1, exponent =>
    match i.onGrid tie exponent with
    | some d => some d
    | none => search i tie count (exponent - 1)

end Shortest

/-- The shortest decimal of a finite positive encoded magnitude. Seventeen digits always suffice. -/
def BinaryFormat.shortest (f : BinaryFormat) (tie : DecimalTie) (code : Nat) : Decimal :=
  let i := Shortest.Interval.ofCode f code
  let start := Shortest.decimalPoint i.value i.unit - 1
  match Shortest.search i tie 17 start with
  | some d => d.dropZeros 18
  | none => ⟨0, 0⟩

end BatchInference
