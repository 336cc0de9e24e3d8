/-!
Rounding an exact quotient to a binary floating-point format. A format is known by how many bits its
significand has and by the weight of its last place at the bottom of its range; the encoding of a magnitude is
then one number that grows with it, so rounding up out of one exponent carries into the next by itself.
-/

namespace BatchInference

/-- A binary interchange format, without its sign. -/
structure BinaryFormat where
  /-- Bits of a full significand, the leading one included. -/
  precision : Nat
  /-- The smallest positive magnitude is two to the minus this. -/
  depth : Nat
  /-- Encoding of infinity; every finite magnitude is encoded below it. -/
  infinity : Nat
  deriving Repr, DecidableEq

namespace BinaryFormat

def single : BinaryFormat := ⟨24, 149, 0x7f800000⟩

def double : BinaryFormat := ⟨53, 1074, 0x7ff0000000000000⟩

/-- A quotient rounded to the nearest whole number, a half going to the even neighbour. -/
def roundHalfEven (num den : Nat) : Nat :=
  let low := num / den
  let rest := num % den
  if 2 * rest < den then low
  else if den < 2 * rest then low + 1
  else low + low % 2

/-- `num / den` counted in steps of two to the `exponent`. -/
def inSteps (num den : Nat) (exponent : Int) : Nat × Nat :=
  if 0 ≤ exponent then (num, den <<< exponent.toNat) else (num <<< (-exponent).toNat, den)

/-- The encoding of the magnitude nearest to `num / den`, for a positive `den`. -/
def encode (f : BinaryFormat) (num den : Nat) : Nat :=
  if num = 0 then 0
  else
    let bottom : Int := -f.depth
    -- the quotient lies within a factor of two of this power
    let guess : Int := (num.log2 : Int) - (den.log2 : Int) - (f.precision : Int)
    let low := max bottom guess
    let steps := inSteps num den low
    let exponent := if steps.1 / steps.2 < 1 <<< f.precision then low else low + 1
    let steps := inSteps num den exponent
    let significand := roundHalfEven steps.1 steps.2
    let code := (exponent - bottom).toNat <<< (f.precision - 1) + significand
    min code f.infinity

/-- Significand and exponent of a finite encoded magnitude: its value is `m * 2 ^ e`. -/
def decode (f : BinaryFormat) (code : Nat) : Nat × Int :=
  let hidden := 1 <<< (f.precision - 1)
  let field := code / hidden
  if field = 0 then (code, -f.depth)
  else (hidden + code % hidden, (field : Int) - 1 - f.depth)

/-- The exact value of a finite encoded magnitude as a quotient. -/
def quotient (f : BinaryFormat) (code : Nat) : Nat × Nat :=
  let (m, e) := f.decode code
  if 0 ≤ e then (m <<< e.toNat, 1) else (m, 1 <<< (-e).toNat)

end BinaryFormat

end BatchInference
