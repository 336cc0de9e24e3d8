import Mathlib.Algebra.Order.Field.Power
import Mathlib.Algebra.Order.Field.Rat
import Mathlib.Data.Int.ConditionallyCompleteOrder
import Mathlib.Order.WithBot
import Mathlib.Tactic.Linarith
import Mathlib.Tactic.NormNum
import Mathlib.Tactic.Ring
import BatchInference.Num.Binary32

/-!
What the numeric comparisons compare. Every single-precision number but a NaN has a value, which is a fraction or one
of the two infinities, and comparing two numbers is comparing their values. Whatever is compared with a NaN, the
answer is no.
-/

namespace BatchInference

namespace BinaryFormat

variable (f : BinaryFormat)

/-- The exact value of a finite encoded magnitude. -/
def value (code : Nat) : ℚ := (f.decode code).1 * 2 ^ (f.decode code).2

/-- The number of magnitudes under one exponent. -/
def binade : Nat := 1 <<< (f.precision - 1)

theorem binade_pos : 0 < f.binade := by
  rw [binade, Nat.one_shiftLeft]
  exact Nat.two_pow_pos _

/-- The value of a magnitude by the exponent it is under and its place there. -/
theorem value_of_parts (field : Nat) {place : Nat} (hplace : place < f.binade) :
    f.value (place + f.binade * field) =
      if field = 0 then (place : ℚ) * 2 ^ (-(f.depth : ℤ))
      else (f.binade + place : ℚ) * 2 ^ ((field : ℤ) - 1 - f.depth) := by
  obtain ⟨hfield, hrest⟩ := (Nat.div_mod_unique f.binade_pos).mpr ⟨rfl, hplace⟩
  simp only [value, decode]
  rw [← binade, hfield, hrest]
  split
  case isTrue hzero => simp [hzero]
  case isFalse => push_cast; rfl

/-- A larger magnitude has a larger value, also where it is the first under its exponent. -/
theorem value_strictMono : StrictMono f.value := by
  refine strictMono_nat_of_lt_succ fun code => ?_
  obtain ⟨field, place, hplace, rfl⟩ : ∃ field place, place < f.binade ∧ code = place + f.binade * field :=
    ⟨code / f.binade, code % f.binade, Nat.mod_lt code f.binade_pos, (Nat.mod_add_div code f.binade).symm⟩
  have hunit : ∀ e : ℤ, (0 : ℚ) < 2 ^ e := fun e => zpow_pos two_pos e
  rcases Nat.lt_or_ge (place + 1) f.binade with hnext | hlast
  · have hsame : place + f.binade * field + 1 = (place + 1) + f.binade * field := by omega
    rw [hsame, value_of_parts f field hplace, value_of_parts f field hnext]
    split
    · exact mul_lt_mul_of_pos_right (by push_cast; linarith) (hunit _)
    · exact mul_lt_mul_of_pos_right (by push_cast; linarith) (hunit _)
  · have hfull : f.binade = place + 1 := by omega
    have hcarry : place + f.binade * field + 1 = 0 + f.binade * (field + 1) := by rw [hfull]; ring
    have hsize : (f.binade : ℚ) = place + 1 := by rw [hfull]; push_cast; rfl
    rw [hcarry, value_of_parts f field hplace, value_of_parts f (field + 1) f.binade_pos,
      if_neg (Nat.succ_ne_zero field), hsize]
    split
    case isTrue hzero =>
      rw [hzero]
      have hexponent : ((0 + 1 : Nat) : ℤ) - 1 - f.depth = -f.depth := by push_cast; ring
      rw [hexponent]
      exact mul_lt_mul_of_pos_right (by push_cast; linarith) (hunit _)
    case isFalse =>
      -- one exponent up, the unit is twice as large
      have hexponent : ((field + 1 : Nat) : ℤ) - 1 - f.depth = ((field : ℤ) - 1 - f.depth) + 1 := by push_cast; ring
      have hplace : (0 : ℚ) ≤ place := Nat.cast_nonneg place
      rw [hexponent, zpow_add_one₀ two_ne_zero]
      calc ((place : ℚ) + 1 + place) * 2 ^ ((field : ℤ) - 1 - f.depth)
          < ((place + 1) * 2) * 2 ^ ((field : ℤ) - 1 - f.depth) :=
            mul_lt_mul_of_pos_right (by linarith) (hunit _)
        _ = (place + 1 + ((0 : Nat) : ℚ)) * (2 ^ ((field : ℤ) - 1 - f.depth) * 2) := by push_cast; ring

theorem value_zero : f.value 0 = 0 := by
  have hparts := value_of_parts f 0 f.binade_pos
  simpa using hparts

theorem value_nonneg (code : Nat) : 0 ≤ f.value code := by
  rw [← f.value_zero]
  exact f.value_strictMono.monotone (Nat.zero_le code)

end BinaryFormat

namespace Binary32

variable {x y : Binary32}

/-- What a number stands for; a NaN stands for none. -/
def value? (x : Binary32) : Option (WithBot (WithTop ℚ)) :=
  if x.isNaN then none
  else if x.isFinite then
    let size := BinaryFormat.single.value x.magnitude
    some (((if x.isNegative then -size else size : ℚ) : WithTop ℚ) : WithBot (WithTop ℚ))
  else some (if x.isNegative then ⊥ else ⊤)

/-- The fraction that a place on the line of the finite numbers stands for. -/
def fractionAt (place : ℤ) : ℚ :=
  if place < 0 then -BinaryFormat.single.value place.natAbs else BinaryFormat.single.value place.natAbs

theorem fractionAt_strictMono : StrictMono fractionAt := by
  have hmono := BinaryFormat.single.value_strictMono
  intro p q hpq
  have hp := BinaryFormat.single.value_nonneg p.natAbs
  simp only [fractionAt]
  split
  case isTrue hneg =>
    split
    case isTrue => exact neg_lt_neg (hmono (by omega))
    case isFalse =>
      have hpos : 0 < BinaryFormat.single.value p.natAbs := by
        rw [← BinaryFormat.single.value_zero]
        exact hmono (by omega)
      linarith [BinaryFormat.single.value_nonneg q.natAbs]
  case isFalse hneg =>
    rw [if_neg (by omega)]
    exact hmono (by omega)

/-- What a place on the number line stands for. -/
def valueAt (place : ℤ) : WithBot (WithTop ℚ) :=
  if place.natAbs < BinaryFormat.single.infinity then ((fractionAt place : WithTop ℚ) : WithBot (WithTop ℚ))
  else if place < 0 then ⊥ else ⊤

/-- Places on the number line, up to those of the infinities, stand for larger values the further they are. -/
theorem valueAt_strictMonoOn : StrictMonoOn valueAt {place | place.natAbs ≤ BinaryFormat.single.infinity} := by
  intro p hp q hq hpq
  have hp : p.natAbs ≤ BinaryFormat.single.infinity := hp
  have hq : q.natAbs ≤ BinaryFormat.single.infinity := hq
  simp only [valueAt]
  split
  case isTrue hfinite =>
    split
    case isTrue => exact WithBot.coe_lt_coe.mpr (WithTop.coe_lt_coe.mpr (fractionAt_strictMono hpq))
    case isFalse =>
      rw [if_neg (by omega)]
      exact WithBot.coe_lt_coe.mpr (WithTop.coe_lt_top _)
  case isFalse hinfinite =>
    rw [if_pos (by omega)]
    split
    case isTrue => exact WithBot.bot_lt_coe _
    case isFalse =>
      rw [if_neg (by omega)]
      exact bot_lt_top

theorem value?_eq_none : x.value? = none ↔ x.isNaN = true := by
  simp only [value?]
  split
  case isTrue h => simp [h]
  case isFalse h => split <;> simp [h]

theorem natAbs_place : x.place.natAbs = x.magnitude := by
  simp only [place]
  split <;> simp

/-- The value of a number is told by its place, at which the two zeros meet. -/
theorem value?_of_number (h : x.isNaN = false) : x.value? = some (valueAt x.place) := by
  have hsign : x.place < 0 ↔ x.isNegative = true ∧ x.magnitude ≠ 0 := by
    simp only [place]
    split <;> simp_all
    omega
  simp only [value?, h, Bool.false_eq_true, if_false, valueAt, natAbs_place, isFinite, decide_eq_true_eq]
  split
  case isTrue hfinite =>
    by_cases hneg : x.place < 0
    · simp [fractionAt, hneg, natAbs_place, hsign.mp hneg]
    · by_cases hzero : x.magnitude = 0
      · simp [fractionAt, hneg, natAbs_place, hzero, BinaryFormat.single.value_zero]
      · have hpositive : x.isNegative = false := by
          by_contra hnegative
          exact hneg (hsign.mpr ⟨by simpa using hnegative, hzero⟩)
        simp [fractionAt, hneg, natAbs_place, hpositive]
  case isFalse hinfinite =>
    have hzero : x.magnitude ≠ 0 := by
      intro hzero
      exact hinfinite (by rw [hzero]; decide)
    simp only [hsign, ne_eq, hzero, not_false_eq_true, and_true]

theorem natAbs_place_le (h : x.isNaN = false) : x.place.natAbs ≤ BinaryFormat.single.infinity := by
  simpa [natAbs_place, isNaN] using h

/-- What holds of the values of two numbers holds of what their places stand for. -/
theorem values_iff {R : WithBot (WithTop ℚ) → WithBot (WithTop ℚ) → Prop} :
    (∃ a b, x.value? = some a ∧ y.value? = some b ∧ R a b) ↔
      (x.isNaN = false ∧ y.isNaN = false) ∧ R (valueAt x.place) (valueAt y.place) := by
  constructor
  · rintro ⟨a, b, ha, hb, h⟩
    have hx : x.isNaN = false := by simpa [ha] using value?_eq_none (x := x)
    have hy : y.isNaN = false := by simpa [hb] using value?_eq_none (x := y)
    rw [value?_of_number hx] at ha
    rw [value?_of_number hy] at hb
    cases ha
    cases hb
    exact ⟨⟨hx, hy⟩, h⟩
  · rintro ⟨⟨hx, hy⟩, h⟩
    exact ⟨_, _, value?_of_number hx, value?_of_number hy, h⟩

/-- Two numbers compare as their values do, and with a NaN nothing does. -/
theorem le_iff : x.le y = true ↔ ∃ a b, x.value? = some a ∧ y.value? = some b ∧ a ≤ b := by
  rw [values_iff]
  simp only [le, Bool.and_eq_true, Bool.not_eq_true', decide_eq_true_eq]
  refine and_congr_right fun h => ?_
  exact (valueAt_strictMonoOn.le_iff_le (natAbs_place_le h.1) (natAbs_place_le h.2)).symm

theorem lt_iff : x.lt y = true ↔ ∃ a b, x.value? = some a ∧ y.value? = some b ∧ a < b := by
  rw [values_iff]
  simp only [lt, Bool.and_eq_true, Bool.not_eq_true', decide_eq_true_eq]
  refine and_congr_right fun h => ?_
  exact (valueAt_strictMonoOn.lt_iff_lt (natAbs_place_le h.1) (natAbs_place_le h.2)).symm

theorem value?_zero : zero.value? = some 0 := by
  rw [value?_of_number (by decide)]
  change some (((fractionAt 0 : WithTop ℚ)) : WithBot (WithTop ℚ)) = _
  simp [fractionAt, BinaryFormat.single.value_zero]

theorem value?_one : one.value? = some 1 := by
  rw [value?_of_number (by decide)]
  have hfraction : fractionAt one.place = 1 := by
    have hplace : one.place = 0x3f800000 := by decide
    have hdecode : BinaryFormat.single.decode 0x3f800000 = (0x800000, -23) := by decide
    simp only [fractionAt, BinaryFormat.value, hplace]
    norm_num [hdecode]
  have hfinite : one.place.natAbs < BinaryFormat.single.infinity := by decide
  rw [valueAt, if_pos hfinite, hfraction]
  rfl

/-! ### Comparisons with zero and one -/

theorem zero_le_iff : zero.le x = true ↔ ∃ v, x.value? = some v ∧ 0 ≤ v := by
  simp only [le_iff, value?_zero, Option.some.injEq, exists_and_left, exists_eq_left']

theorem le_zero_iff : x.le zero = true ↔ ∃ v, x.value? = some v ∧ v ≤ 0 := by
  simp only [le_iff, value?_zero, Option.some.injEq, exists_and_left, exists_eq_left']

theorem zero_lt_iff : zero.lt x = true ↔ ∃ v, x.value? = some v ∧ 0 < v := by
  simp only [lt_iff, value?_zero, Option.some.injEq, exists_and_left, exists_eq_left']

theorem le_one_iff : x.le one = true ↔ ∃ v, x.value? = some v ∧ v ≤ 1 := by
  simp only [le_iff, value?_one, Option.some.injEq, exists_and_left, exists_eq_left']

end Binary32

end BatchInference
