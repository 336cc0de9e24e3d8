import BatchInference.Num.Binary32

/-!
The model behind an engine: what it was started for, what it can do, and how long its context is.
-/

namespace BatchInference

/-- What an engine was started to do. -/
inductive Runner where
  | generate
  | transcription
  | pooling
  deriving DecidableEq, Repr, Inhabited

def Runner.name : Runner → String
  | .generate => "generate"
  | .transcription => "transcription"
  | .pooling => "pooling"

/-- What a model was trained for. -/
inductive Task where
  | generate
  | transcription
  | embed
  | classify
  | score
  | reward
  deriving DecidableEq, Repr, Inhabited

/-- Sampling settings that come with the model and stand in for the library's own. -/
structure GenerationDefaults where
  temperature : Option Binary32 := none
  topP : Option Binary32 := none
  topK : Option Nat := none
  minP : Option Binary32 := none
  repetitionPenalty : Option Binary32 := none
  maxTokens : Option Nat := none
  deriving DecidableEq, Repr, Inhabited

def GenerationDefaults.isEmpty (d : GenerationDefaults) : Bool :=
  d.temperature.isNone && d.topP.isNone && d.topK.isNone && d.minP.isNone &&
    d.repetitionPenalty.isNone && d.maxTokens.isNone

structure ModelConfig where
  runner : Runner := .generate
  supportedRunners : List Runner := [.generate]
  task : Task := .generate
  /-- Length of the context window in tokens. -/
  maxModelLen : Nat := 4096
  /-- Whether a shortened pooled vector still means something. -/
  isMatryoshka : Bool := false
  /-- Whether a pair of texts is read as one input and pooled to a score. -/
  isCrossEncoder : Bool := false
  numLabels : Option Nat := none
  generationDefaults : GenerationDefaults := {}
  deriving DecidableEq, Repr, Inhabited

def ModelConfig.supports (c : ModelConfig) (r : Runner) : Bool := c.supportedRunners.contains r

end BatchInference
