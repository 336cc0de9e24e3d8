import Mathlib.Data.Finset.Card
import BatchInference.Proofs.Checks
import BatchInference.Proofs.Num.Values

/-!
Which sampling parameters are accepted. Each setting has a range of its own, which is a range of values and takes no
NaN, and of the modes of guided decoding at most one may be in force. The row of checks finds the first setting that
is out of its range, and two modes only where there is no such setting. One check asks less than its range: a
repetition penalty is refused for being at most zero, and a NaN is not.
-/

namespace BatchInference

/-- A setting of the sampling parameters that has a range. -/
inductive SamplingSetting where
  | completions
  | temperature
  | topP
  | topK
  | minP
  | repetitionPenalty
  | maxTokens
  deriving DecidableEq

/-- All settings that have a range, in the order in which they are checked. -/
def SamplingSetting.inOrder : List SamplingSetting :=
  [.completions, .temperature, .topP, .topK, .minP, .repetitionPenalty, .maxTokens]

theorem SamplingSetting.mem_inOrder (s : SamplingSetting) : s ∈ inOrder := by
  cases s <;> decide

/-- A mode of guided decoding. -/
inductive GuidedMode where
  | json
  | regex
  | choice
  | grammar
  | jsonObject
  | structuralTag
  deriving DecidableEq

def GuidedMode.all : List GuidedMode := [.json, .regex, .choice, .grammar, .jsonObject, .structuralTag]

theorem GuidedMode.mem_all (m : GuidedMode) : m ∈ all := by
  cases m <;> decide

namespace GuidedDecoding

/-- Whether a mode is in force; asking for no object in particular is asking for nothing. -/
def sets (g : GuidedDecoding) : GuidedMode → Bool
  | .json => g.json.isSome
  | .regex => g.regex.isSome
  | .choice => g.choice.isSome
  | .grammar => g.grammar.isSome
  | .jsonObject => g.jsonObject == some true
  | .structuralTag => g.structuralTag.isSome

/-- No two different modes are in force. -/
def AtMostOneMode (g : GuidedDecoding) : Prop :=
  ∀ m m', g.sets m = true → g.sets m' = true → m = m'

theorem modeCount_le_one (g : GuidedDecoding) : g.modeCount ≤ 1 ↔ g.AtMostOneMode := by
  have hcount : g.modeCount = (GuidedMode.all.filter g.sets).toFinset.card := by
    have hnodup : (GuidedMode.all.filter g.sets).Nodup := List.Nodup.filter _ (by decide)
    rw [List.toFinset_card_of_nodup hnodup, ← List.countP_eq_length_filter]
    rfl
  have hmem : ∀ m, m ∈ (GuidedMode.all.filter g.sets).toFinset ↔ g.sets m = true := by
    intro m
    rw [List.mem_toFinset, List.mem_filter, and_iff_right m.mem_all]
  rw [hcount, Finset.card_le_one]
  simp only [hmem]
  exact ⟨fun h m m' hm hm' => h m hm m' hm', fun h m hm m' hm' => h m m' hm hm'⟩

end GuidedDecoding

namespace SamplingParams

variable (p : SamplingParams)

/-- The range of each setting, as a range of values. -/
def InRange : SamplingSetting → Prop
  | .completions => 1 ≤ p.n
  | .temperature => ∃ v, p.temperature.value? = some v ∧ 0 ≤ v
  | .topP => ∃ v, p.topP.value? = some v ∧ 0 < v ∧ v ≤ 1
  | .topK => ∀ k, p.topK = some k → 1 ≤ k
  | .minP => ∃ v, p.minP.value? = some v ∧ 0 ≤ v ∧ v ≤ 1
  | .repetitionPenalty => ∃ v, p.repetitionPenalty.value? = some v ∧ 0 < v
  | .maxTokens => ∀ k, p.maxTokens = some k → 1 ≤ k

/-- No two modes of guided decoding are in force. -/
def GuidedOnce : Prop :=
  ∀ g, p.guidedDecoding = some g → g.AtMostOneMode

/-- What a setting out of its range is reported as. -/
def causeOf : SamplingSetting → InvalidInput
  | .completions => .completions p.n
  | .temperature => .temperature p.temperature
  | .topP => .topP p.topP
  | .topK => .topK
  | .minP => .minP p.minP
  | .repetitionPenalty => .repetitionPenalty p.repetitionPenalty
  | .maxTokens => .maxTokens

/-- What passes for being in range: a repetition penalty that is a NaN does as well. -/
def Passes (s : SamplingSetting) : Prop :=
  p.InRange s ∨ s = .repetitionPenalty ∧ p.repetitionPenalty.value? = none

/-- The condition of the check of a setting. -/
def check : SamplingSetting → Bool
  | .completions => 1 ≤ p.n
  | .temperature => p.temperature.isNonNegative
  | .topP => Binary32.zero.lt p.topP && p.topP.le .one
  | .topK => p.topK != some 0
  | .minP => Binary32.zero.le p.minP && p.minP.le .one
  | .repetitionPenalty => !p.repetitionPenalty.isNonPositive
  | .maxTokens => p.maxTokens != some 0

theorem verify_eq : p.verify =
    (forM SamplingSetting.inOrder fun s => require (p.check s) (.invalidInput (p.causeOf s))) >>= fun _ =>
      require (p.guidedDecoding.all (·.modeCount ≤ 1)) (.conflictingConfig .guidedModes) := by
  simp only [SamplingSetting.inOrder, List.forM_cons, List.forM_nil, bind_assoc, pure_bind]
  rfl

/-- What must hold of the value of a number in two ways holds of it at once. -/
private theorem exists_value_and {x : Binary32} {P Q : WithBot (WithTop ℚ) → Prop} :
    ((∃ v, x.value? = some v ∧ P v) ∧ ∃ v, x.value? = some v ∧ Q v) ↔ ∃ v, x.value? = some v ∧ P v ∧ Q v := by
  constructor
  · rintro ⟨⟨v, hv, hP⟩, v', hv', hQ⟩
    rw [hv] at hv'
    cases hv'
    exact ⟨v, hv, hP, hQ⟩
  · rintro ⟨v, hv, hP, hQ⟩
    exact ⟨⟨v, hv, hP⟩, v, hv, hQ⟩

/-- A count that is absent or not zero. -/
private theorem ne_some_zero {count : Option Nat} : (count != some 0) = true ↔ ∀ k, count = some k → 1 ≤ k := by
  cases count with
  | none => simp
  | some k => simp [Nat.one_le_iff_ne_zero]

theorem check_iff (s : SamplingSetting) : p.check s = true ↔ p.Passes s := by
  cases s with
  | completions => simp [check, Passes, InRange]
  | temperature => simp [check, Passes, InRange, Binary32.isNonNegative, Binary32.zero_le_iff]
  | topP => simp [check, Passes, InRange, Binary32.zero_lt_iff, Binary32.le_one_iff, exists_value_and]
  | topK => simp only [check, Passes, InRange, ne_some_zero, reduceCtorEq, false_and, or_false]
  | minP => simp [check, Passes, InRange, Binary32.zero_le_iff, Binary32.le_one_iff, exists_value_and]
  | maxTokens => simp only [check, Passes, InRange, ne_some_zero, reduceCtorEq, false_and, or_false]
  | repetitionPenalty =>
    -- the check asks that the penalty is not at most zero, which a NaN is not
    have hcheck : p.check .repetitionPenalty = true ↔ ¬∃ v, p.repetitionPenalty.value? = some v ∧ v ≤ 0 := by
      rw [← Binary32.le_zero_iff]
      simp [check, Binary32.isNonPositive]
    rw [hcheck]
    cases hvalue : p.repetitionPenalty.value? with
    | none => simp [Passes, hvalue]
    | some v => simp [Passes, InRange, hvalue]

private theorem forall_inOrder {P : SamplingSetting → Prop} : (∀ s ∈ SamplingSetting.inOrder, P s) ↔ ∀ s, P s := by
  simp only [SamplingSetting.mem_inOrder, forall_const]

private theorem guidedOnce_iff : p.guidedDecoding.all (·.modeCount ≤ 1) = true ↔ p.GuidedOnce := by
  cases hg : p.guidedDecoding <;> simp [GuidedOnce, hg, GuidedDecoding.modeCount_le_one]

theorem verify_eq_ok_iff : p.verify = .ok () ↔ (∀ s, p.Passes s) ∧ p.GuidedOnce := by
  rw [verify_eq, bind_eq_ok]
  simp only [forM_require_eq_ok, require_eq_ok, check_iff, forall_inOrder, guidedOnce_iff, exists_const]

/-- Parameters are accepted exactly if every setting is in its range, of which the repetition penalty may as well be a
NaN, and no two modes of guided decoding are in force. Otherwise the first setting out of its range is reported, with
its value, and the modes only if there is no such setting. -/
theorem verify_finds_first_out_of_range :
    (p.verify = .ok () ↔ (∀ s, p.Passes s) ∧ p.GuidedOnce) ∧
    ∀ e, p.verify = .error e ↔
      (∃ earlier s later, SamplingSetting.inOrder = earlier ++ s :: later ∧ (∀ s' ∈ earlier, p.Passes s') ∧
        ¬p.Passes s ∧ e = .invalidInput (p.causeOf s)) ∨
      (∀ s, p.Passes s) ∧ ¬p.GuidedOnce ∧ e = .conflictingConfig .guidedModes := by
  refine ⟨p.verify_eq_ok_iff, fun e => ?_⟩
  rw [verify_eq, bind_eq_error]
  simp only [forM_require_eq_ok, forM_require_eq_error, require_eq_error, ← Bool.not_eq_true, check_iff,
    forall_inOrder, guidedOnce_iff, exists_const, eq_comm (a := e)]

/-- Sampling parameters whose repetition penalty is no number. -/
def nanPenalty : SamplingParams := { repetitionPenalty := .nan }

/-- A repetition penalty that is no number is accepted. -/
theorem nan_penalty_accepted :
    nanPenalty.verify = .ok () ∧ ¬((∀ s, nanPenalty.InRange s) ∧ nanPenalty.GuidedOnce) := by
  refine ⟨by rfl, fun h => ?_⟩
  obtain ⟨v, hv, _⟩ := h.1 .repetitionPenalty
  have hnone : nanPenalty.repetitionPenalty.value? = none := Binary32.value?_eq_none.mpr (by decide)
  rw [hnone] at hv
  cases hv

end SamplingParams

end BatchInference
