import BatchInference.Model
import BatchInference.Prompt

/-!
What a request asks for. Generation requests carry sampling parameters and pooling requests pooling parameters;
beam search parameters never reach an engine, they are turned into sampling parameters for single steps.
-/

namespace BatchInference

/-- How much of a request's output each update shows. -/
inductive OutputKind where
  | cumulative
  | delta
  | finalOnly
  deriving DecidableEq, Repr, Inhabited

/-- Constraints on what may be generated. At most one of the first six fields may be a mode in force. -/
structure GuidedDecoding where
  json : Option Json := none
  regex : Option String := none
  choice : Option (List String) := none
  grammar : Option String := none
  jsonObject : Option Bool := none
  structuralTag : Option String := none
  backend : Option String := none
  whitespacePattern : Option String := none
  deriving Inhabited

/-- How many modes are in force; a `jsonObject` that is false is none. -/
def GuidedDecoding.modeCount (g : GuidedDecoding) : Nat :=
  [g.json.isSome, g.regex.isSome, g.choice.isSome, g.grammar.isSome, g.jsonObject == some true,
    g.structuralTag.isSome].countP id

/-- Guided decoding asked for once for a whole call. It is a deprecated way of setting the same field in each
request's sampling parameters. -/
structure GuidedOptions where
  guidance : GuidedDecoding := {}
  deriving Inhabited

structure SamplingParams where
  n : Nat := 1
  temperature : Binary32 := .one
  topP : Binary32 := .one
  topK : Option Nat := none
  minP : Binary32 := .zero
  repetitionPenalty : Binary32 := .one
  maxTokens : Option Nat := some 16
  /-- How many alternatives to report at each position, with their log-probabilities. -/
  logprobs : Option Nat := none
  ignoreEos : Bool := false
  stopTokenIds : List TokenId := []
  seed : Option UInt64 := none
  /-- Keep only this many last tokens of the prompt; a negative number means the whole context window. -/
  truncatePromptTokens : Option Int := none
  guidedDecoding : Option GuidedDecoding := none
  outputKind : OutputKind := .cumulative
  deriving Inhabited

/-- Sampling parameters in which what the model brings along replaces what the library assumes. -/
def SamplingParams.ofDefaults (d : GenerationDefaults) : SamplingParams :=
  let base : SamplingParams := {}
  { base with
    temperature := d.temperature.getD base.temperature
    topP := d.topP.getD base.topP
    topK := d.topK <|> base.topK
    minP := d.minP.getD base.minP
    repetitionPenalty := d.repetitionPenalty.getD base.repetitionPenalty
    maxTokens := d.maxTokens <|> base.maxTokens }

structure PoolingParams where
  /-- Shorten the pooled vector to this many dimensions. -/
  dimensions : Option Nat := none
  additionalData : Option Json := none
  deriving Inhabited

structure BeamParams where
  beamWidth : Nat := 4
  maxTokens : Nat := 16
  ignoreEos : Bool := false
  temperature : Binary32 := .zero
  /-- Exponent of the length by which the log-probability of a beam is divided. -/
  lengthPenalty : Binary32 := .one
  deriving DecidableEq, Inhabited

/-- The largest count a word can hold. -/
def maxCount : Nat := UInt64.size - 1

/-- The request made for every active beam in one step: a single token, and twice the width in alternatives, so
that enough of them are left when those that end a sequence are set aside. -/
def BeamParams.stepParams (p : BeamParams) : SamplingParams :=
  { logprobs := some (min (2 * p.beamWidth) maxCount)
    maxTokens := some 1
    temperature := p.temperature }

inductive RequestParams where
  | sampling (params : SamplingParams)
  | pooling (params : PoolingParams)

/-- Settings for an engine's tokenizer. -/
structure Truncation where
  enabled : Bool
  maxLength : Nat
  deriving DecidableEq, Repr

end BatchInference
