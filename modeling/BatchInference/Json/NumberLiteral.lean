import BatchInference.Json.Basic

/-!
Numbers as they are written in a document, and the values they have. A whole number that fits its word is exact.
Any other literal is read by a quick rule: its digits are gathered into one 64-bit whole number for as long as
they fit, and that number is scaled once by a power of ten, so the last bit can differ from the nearest double.
-/

namespace BatchInference.Json

/-- A number as written; digits are numbers below ten. -/
structure NumberLiteral where
  negative : Bool
  whole : List Nat
  fraction : Option (List Nat)
  /-- Sign (whether negative) and digits of the exponent. -/
  exponent : Option (Bool × List Nat)
  deriving Repr

namespace NumberLiteral

/-- Gathers digits for as long as the number fits 64 bits; also the digits left over. -/
def gather (start : Nat) : List Nat → Nat × List Nat
  | [] => (start, [])
  | d :: rest => if start * 10 + d < UInt64.size then gather (start * 10 + d) rest else (start, d :: rest)

/-- The exponent as written, unless it is beyond a 32-bit word. -/
def boundedExponent (digits : List Nat) : Option Nat :=
  let n := digits.foldl (fun n d => n * 10 + d) 0
  if n < 0x80000000 then some n else none

def powerOfTen (n : Nat) : Binary64 := .ofNat (Nat.pow 10 n)

/-- `x * 10 ^ exponent` by one multiplication or division, after dividing by `10 ^ 308` as often as needed.
A number too large for a double has no value. -/
def scale : (fuel : Nat) → (x : Binary64) → (exponent : Int) → Option Binary64
  | 0, x, _ => some x
  | fuel + 1, x, exponent =>
    if exponent.natAbs ≤ 308 then
      if 0 ≤ exponent then
        let y := x.timesMagnitude (powerOfTen exponent.toNat)
        if y.isFinite then some y else none
      else some (x.overMagnitude (powerOfTen exponent.natAbs))
    else if x.isZero then some x
    else if 0 ≤ exponent then none
    else scale fuel (x.overMagnitude (powerOfTen 308)) (exponent + 308)

def magnitude? (l : NumberLiteral) : Option Binary64 :=
  let (whole, left) := gather 0 l.whole
  let fraction := l.fraction.getD []
  let (significand, ignored) := gather whole fraction
  let written : Int := (left.length : Int) - ((fraction.length - ignored.length : Nat) : Int)
  match l.exponent with
  | none => scale 4 (.ofNat significand) written
  | some (down, digits) =>
    match boundedExponent digits with
    | some e => scale 4 (.ofNat significand) (if down then written - e else written + e)
    | none => if significand = 0 ∨ down then some (.ofNat 0) else none

/-- The value of a literal. A negative zero is a fraction. -/
def value? (l : NumberLiteral) : Option Json.Number :=
  let n := l.whole.foldl (fun n d => n * 10 + d) 0
  let least : Nat := if l.negative then 1 else 0
  let limit : Nat := if l.negative then 0x8000000000000001 else UInt64.size
  if l.fraction.isNone && l.exponent.isNone && decide (least ≤ n) && decide (n < limit) then
    some (.integer (if l.negative then -(n : Int) else n))
  else do
    let x ← l.magnitude?
    return .double (if l.negative then x.neg else x)

end NumberLiteral

end BatchInference.Json
