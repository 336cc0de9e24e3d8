import BatchInference.Num.Binary64

/-!
Single-precision numbers, in which every score and log-probability is computed. A number is its bits, so
equality of values of this type is equality of bits; the numeric comparisons, under which the two zeros agree
and nothing compares with a NaN, are functions of their own.

Which NaN an operation gives is part of its result, because the total order puts NaNs of different sign at
opposite ends: an operand that is a NaN is passed on, the first before the second, and an invalid operation on
numbers gives the NaN with its sign bit set.
-/

namespace BatchInference

/-- An IEEE 754 binary32 number, held as its bits. -/
structure Binary32 where
  bits : UInt32
  deriving DecidableEq, Repr, Inhabited, Hashable

namespace Binary32

def zero : Binary32 := ⟨0⟩
def negZero : Binary32 := ⟨0x80000000⟩
def one : Binary32 := ⟨0x3f800000⟩
def infinity : Binary32 := ⟨0x7f800000⟩
def negInfinity : Binary32 := ⟨0xff800000⟩
def nan : Binary32 := ⟨0x7fc00000⟩

/-- What an invalid operation on numbers gives. -/
def invalid : Binary32 := ⟨0xffc00000⟩

def isNegative (x : Binary32) : Bool := 0x80000000 ≤ x.bits

def magnitude (x : Binary32) : Nat := (x.bits &&& 0x7fffffff).toNat

def isNaN (x : Binary32) : Bool := BinaryFormat.single.infinity < x.magnitude

def isFinite (x : Binary32) : Bool := x.magnitude < BinaryFormat.single.infinity

/-- Position on the number line for numbers: the two zeros share one place. -/
def place (x : Binary32) : Int :=
  if x.isNegative then -(x.magnitude : Int) else x.magnitude

/-- Position in the total order of all values, in which the negative zero comes before the positive one. -/
def rank (x : Binary32) : Int :=
  if x.isNegative then -(x.magnitude : Int) - 1 else x.magnitude

def lt (x y : Binary32) : Bool := !x.isNaN && !y.isNaN && x.place < y.place

def le (x y : Binary32) : Bool := !x.isNaN && !y.isNaN && x.place ≤ y.place

def eq (x y : Binary32) : Bool := !x.isNaN && !y.isNaN && x.place = y.place

/-- The total order: negative NaNs, then the numbers, then positive NaNs. -/
def totalLe (x y : Binary32) : Bool := x.rank ≤ y.rank

/-- The larger number, and the other operand where one is a NaN. -/
def max (x y : Binary32) : Binary32 :=
  if x.isNaN then y else if y.isNaN then x else if x.lt y then y else x

def neg (x : Binary32) : Binary32 := ⟨x.bits ^^^ 0x80000000⟩

/-- A NaN operand as a result shows it. -/
def quiet (x : Binary32) : Binary32 := ⟨x.bits ||| 0x400000⟩

private def ofResult (r : Float32) : Binary32 :=
  let x : Binary32 := ⟨r.toBits⟩
  if x.isNaN then invalid else x

private def binary (op : Float32 → Float32 → Float32) (x y : Binary32) : Binary32 :=
  if x.isNaN then x.quiet
  else if y.isNaN then y.quiet
  else ofResult (op (.ofBits x.bits) (.ofBits y.bits))

def add (x y : Binary32) : Binary32 := binary (· + ·) x y

def mul (x y : Binary32) : Binary32 := binary (· * ·) x y

def div (x y : Binary32) : Binary32 := binary (· / ·) x y

def sqrt (x : Binary32) : Binary32 :=
  if x.isNaN then x.quiet else ofResult (Float32.ofBits x.bits).sqrt

/-- `x` to the power `y`. The first power is the base itself, and a power with exponent zero is one. -/
def pow (x y : Binary32) : Binary32 :=
  if y = one then x
  else if y.magnitude = 0 then one
  else binary Float32.pow x y

instance : Add Binary32 := ⟨add⟩
instance : Mul Binary32 := ⟨mul⟩
instance : Div Binary32 := ⟨div⟩

/-- Left-to-right sum. It starts from the negative zero, which changes no summand. -/
def sum (xs : List Binary32) : Binary32 := xs.foldl add negZero

def ofNat (n : Nat) : Binary32 := ⟨UInt32.ofNat (BinaryFormat.single.encode n 1)⟩

def ofInt (n : Int) : Binary32 :=
  if n < 0 then (ofNat n.natAbs).neg else ofNat n.natAbs

/-- The nearest single-precision number to a double-precision one. -/
def ofBinary64 (x : Binary64) : Binary32 :=
  let code :=
    if x.isFinite then
      let (num, den) := BinaryFormat.double.quotient x.magnitude
      BinaryFormat.single.encode num den
    else if x.magnitude = BinaryFormat.double.infinity then BinaryFormat.single.infinity
    else 0x7fc00000
  let unsigned : Binary32 := ⟨UInt32.ofNat code⟩
  if x.isNegative then unsigned.neg else unsigned

theorem totalLe_refl (x : Binary32) : x.totalLe x = true := by
  simp [totalLe]

theorem totalLe_trans {x y z : Binary32} (hxy : x.totalLe y = true) (hyz : y.totalLe z = true) :
    x.totalLe z = true := by
  simp only [totalLe, decide_eq_true_eq] at *
  omega

theorem totalLe_total (x y : Binary32) : (x.totalLe y || y.totalLe x) = true := by
  simp only [totalLe, Bool.or_eq_true, decide_eq_true_eq]
  omega

/-- The bits of a number are its magnitude and its sign. -/
theorem toNat_bits (x : Binary32) : x.bits.toNat = x.magnitude + if x.isNegative then 0x80000000 else 0 := by
  have hmagnitude : x.magnitude = x.bits.toNat % 0x80000000 := by
    rw [magnitude, UInt32.toNat_and]
    exact Nat.and_two_pow_sub_one_eq_mod _ 31
  have hnegative : x.isNegative = true ↔ 0x80000000 ≤ x.bits.toNat := decide_eq_true_iff
  have hbound := x.bits.toNat_lt
  simp only [hnegative]
  split <;> omega

/-- No two values share a place in the total order. -/
theorem totalLe_antisymm {x y : Binary32} (hxy : x.totalLe y = true) (hyx : y.totalLe x = true) : x = y := by
  have hrank : x.rank = y.rank := Int.le_antisymm (of_decide_eq_true hxy) (of_decide_eq_true hyx)
  have hbits : x.bits.toNat = y.bits.toNat := by
    rw [toNat_bits, toNat_bits]
    revert hrank
    unfold rank
    cases x.isNegative <;> cases y.isNegative <;> simp only [Bool.false_eq_true, if_true, if_false] <;> omega
  rw [mk.injEq, ← UInt32.toNat_inj]
  exact hbits

end Binary32

end BatchInference
