import BatchInference.Num.Binary32
import BatchInference.Num.Shortest

/-!
How a decimal is laid out as text. A layout says for which sizes the digits are written in place, what a whole
number looks like and how an exponent is written; the digits themselves are always the shortest that read back.
-/

namespace BatchInference

structure DecimalLayout where
  /-- Which of two equally near shortest decimals is written. -/
  tie : DecimalTie
  /-- Least and greatest position of the decimal point at which the digits are written in place;
  always, if there are no limits. -/
  inPlace : Option (Int × Int)
  /-- Whether a whole number written in place ends in `.0`. -/
  pointZero : Bool
  plus : Bool

namespace DecimalLayout

/-- Text for people: every digit in place. -/
def plain : DecimalLayout := ⟨.up, none, false, false⟩

/-- Text in diagnostics: in place from `1e-4` up to below `1e16`, and never like a whole number. -/
def diagnostic : DecimalLayout := ⟨.up, some (-3, 16), true, false⟩

/-- Single precision in documents: in place from `1e-6` up to below `1e13`. -/
def jsonSingle : DecimalLayout := ⟨.even, some (-5, 13), true, true⟩

/-- Double precision in documents: in place from `1e-5` up to below `1e16`. -/
def jsonDouble : DecimalLayout := ⟨.even, some (-4, 16), true, true⟩

def zeros (n : Nat) : List Char := List.replicate n '0'

def positional (layout : DecimalLayout) (digits : List Char) (point : Int) : List Char :=
  if point ≤ 0 then '0' :: '.' :: zeros (-point).toNat ++ digits
  else if digits.length ≤ point then
    digits ++ zeros (point.toNat - digits.length) ++ (if layout.pointZero then ['.', '0'] else [])
  else digits.take point.toNat ++ '.' :: digits.drop point.toNat

/-- One digit, the others behind a point, and the exponent. -/
def scientific (layout : DecimalLayout) (digits : List Char) (point : Int) : List Char :=
  let mantissa :=
    match digits with
    | [] => []
    | [d] => [d]
    | d :: rest => d :: '.' :: rest
  let exponent := point - 1
  let sign := if exponent < 0 then ['-'] else if layout.plus then ['+'] else []
  mantissa ++ 'e' :: sign ++ Nat.toDigits 10 exponent.natAbs

def render (layout : DecimalLayout) (d : Decimal) : List Char :=
  let inPlace :=
    match layout.inPlace with
    | none => true
    | some (least, most) => decide (least ≤ d.point) && decide (d.point ≤ most)
  if inPlace then layout.positional d.digits d.point else layout.scientific d.digits d.point

/-- Text of a finite number of any format, given its sign and its encoded magnitude. -/
def finiteText (layout : DecimalLayout) (f : BinaryFormat) (negative : Bool) (code : Nat) : String :=
  let body :=
    if code = 0 then (if layout.pointZero then ['0', '.', '0'] else ['0'])
    else layout.render (f.shortest layout.tie code)
  String.ofList (if negative then '-' :: body else body)

end DecimalLayout

/-- Text of a single-precision number; the values that are not numbers have names. -/
def Binary32.text (layout : DecimalLayout) (x : Binary32) : String :=
  if x.isNaN then "NaN"
  else if x.isFinite then layout.finiteText .single x.isNegative x.magnitude
  else if x.isNegative then "-inf" else "inf"

/-- Text of a double-precision number; the values that are not numbers have names. -/
def Binary64.text (layout : DecimalLayout) (x : Binary64) : String :=
  if x.isFinite then layout.finiteText .double x.isNegative x.magnitude
  else if x.magnitude = BinaryFormat.double.infinity then (if x.isNegative then "-inf" else "inf")
  else "NaN"

end BatchInference
