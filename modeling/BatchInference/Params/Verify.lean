import BatchInference.Error

/-!
Checking parameters before anything is submitted. Each check names the first setting that is out of range, in
the order of the fields.
-/

namespace BatchInference

/-- Fails for the given reason where the condition does not hold. -/
def require (holds : Bool) (otherwise : CallError) : Except CallError Unit :=
  if holds then .ok () else .error otherwise

/-- A number from zero up; a NaN is none. -/
def Binary32.isNonNegative (x : Binary32) : Bool := Binary32.zero.le x

def Binary32.isNonPositive (x : Binary32) : Bool := x.le Binary32.zero

def SamplingParams.verify (p : SamplingParams) : Except CallError Unit := do
  require (1 ≤ p.n) (.invalidInput (.completions p.n))
  require p.temperature.isNonNegative (.invalidInput (.temperature p.temperature))
  require (Binary32.zero.lt p.topP && p.topP.le .one) (.invalidInput (.topP p.topP))
  require (p.topK != some 0) (.invalidInput .topK)
  require (Binary32.zero.le p.minP && p.minP.le .one) (.invalidInput (.minP p.minP))
  -- a NaN is not at most zero
  require (!p.repetitionPenalty.isNonPositive) (.invalidInput (.repetitionPenalty p.repetitionPenalty))
  require (p.maxTokens != some 0) (.invalidInput .maxTokens)
  require (p.guidedDecoding.all (·.modeCount ≤ 1)) (.conflictingConfig .guidedModes)

def PoolingParams.verify (p : PoolingParams) (model : ModelConfig) : Except CallError Unit :=
  match p.dimensions with
  | none => .ok ()
  | some dimensions => do
    require model.isMatryoshka (.unsupported .shorterVectors)
    require (1 ≤ dimensions) (.invalidInput .dimensions)

def BeamParams.verify (p : BeamParams) : Except CallError Unit := do
  require (1 ≤ p.beamWidth) (.invalidInput .beamWidth)
  require (2 * p.beamWidth ≤ maxCount) (.invalidInput (.beamWidthTooLarge p.beamWidth))
  require (1 ≤ p.maxTokens) (.invalidInput .beamSteps)
  require p.temperature.isNonNegative (.invalidInput (.temperature p.temperature))
  require p.lengthPenalty.isFinite (.invalidInput (.lengthPenalty p.lengthPenalty))

def RequestParams.verify (model : ModelConfig) : RequestParams → Except CallError Unit
  | .sampling p => p.verify
  | .pooling p => p.verify model

/-- The guidance that a call's options stand for. -/
def GuidedOptions.resolve (o : GuidedOptions) : Except CallError GuidedDecoding :=
  if 1 < o.guidance.modeCount then .error (.conflictingConfig (.guidedOptions o)) else .ok o.guidance

/-- Resolves a truncation request against the context window: a negative number means the whole window, and no
more than the window can be kept. -/
def Truncation.resolve (window : Nat) : (requested : Option Int) → Except CallError (Option Truncation)
  | none => .ok none
  | some k =>
    let length := if k < 0 then window else k.toNat
    if window < length then .error (.invalidInput (.truncation k window))
    else .ok (some ⟨true, length⟩)

end BatchInference
