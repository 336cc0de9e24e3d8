import BatchInference.Num.Rounding

/-!
Double-precision numbers, as JSON documents carry them. They are only read, written and rounded to single
precision, so the arithmetic here is that of finite magnitudes and goes through exact quotients.
-/

namespace BatchInference

/-- An IEEE 754 binary64 number, held as its bits. -/
structure Binary64 where
  bits : UInt64
  deriving DecidableEq, Repr, Inhabited, Hashable

namespace Binary64

def isNegative (x : Binary64) : Bool := 0x8000000000000000 ≤ x.bits

def magnitude (x : Binary64) : Nat := (x.bits &&& 0x7fffffffffffffff).toNat

def isFinite (x : Binary64) : Bool := x.magnitude < BinaryFormat.double.infinity

def isZero (x : Binary64) : Bool := x.magnitude = 0

def ofMagnitude (code : Nat) : Binary64 := ⟨UInt64.ofNat code⟩

def neg (x : Binary64) : Binary64 := ⟨x.bits ^^^ 0x8000000000000000⟩

def ofNat (n : Nat) : Binary64 := ofMagnitude (BinaryFormat.double.encode n 1)

def ofInt (n : Int) : Binary64 :=
  if n < 0 then (ofNat n.natAbs).neg else ofNat n.natAbs

/-- The nearest number to the product of two finite numbers that are not negative. -/
def timesMagnitude (x y : Binary64) : Binary64 :=
  let (a, b) := BinaryFormat.double.quotient x.magnitude
  let (c, d) := BinaryFormat.double.quotient y.magnitude
  ofMagnitude (BinaryFormat.double.encode (a * c) (b * d))

/-- The nearest number to the quotient of two finite numbers that are not negative, the second positive. -/
def overMagnitude (x y : Binary64) : Binary64 :=
  let (a, b) := BinaryFormat.double.quotient x.magnitude
  let (c, d) := BinaryFormat.double.quotient y.magnitude
  ofMagnitude (BinaryFormat.double.encode (a * d) (b * c))

end Binary64

end BatchInference
