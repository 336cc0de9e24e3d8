import BatchInference.Batch.Submission
import BatchInference.Batch.Results

/-!
The calls that run one batch: generate, encode, embed and classify. Each checks its model, brings its prompts and
arguments into one batch, and runs the batch: check everything, submit everything, work until the engine is idle.
-/

namespace BatchInference

structure GenerateOptions where
  /-- The model's default parameters where there are none. -/
  params : Option (Broadcast SamplingParams) := none
  lora : Broadcast (Option LoraAdapter) := .one none
  promptAdapter : Option PromptAdapter := none
  steerVector : Option SteerVector := none
  /-- Deprecated: guidance belongs into the parameters. -/
  guided : Option GuidedOptions := none
  priority : Option (List Int32) := none

structure EncodeOptions where
  params : Option (Broadcast PoolingParams) := none
  /-- Keep only this many last tokens of each prompt; a negative number means the whole context window. -/
  truncate : Option Int := none
  lora : Broadcast (Option LoraAdapter) := .one none
  promptAdapter : Option PromptAdapter := none
  steerVector : Option SteerVector := none
  priority : Option (List Int32) := none

namespace Service

variable {σ τ : Type}

/-- The display a call reports to, which takes no notice where the caller gives none. -/
def displayOf (sink : Option (ProgressSink τ)) : ProgressSink τ := sink.getD (.silent τ)

/-- Checks, submits and drains one batch. -/
def runBatch (svc : Service σ) (ticks : Nat) (batch : Batch) (sink : ProgressSink τ) :
    Run σ τ (List Update) := do
  let pending ← Run.check (batch.prepare svc.model)
  let _ ← svc.submit sink pending
  svc.drain ticks sink

/-- The prompts of a call in order; a deprecated shape is noted in the log. -/
def promptsOf (input : PromptInput) : Run σ τ (List Prompt) := do
  Run.logWhen input.isDeprecated .warn PromptInput.deprecation
  Run.check input.normalize

def guidanceOf : Option GuidedOptions → Run σ τ (Option GuidedDecoding)
  | none => return none
  | some options => do
    Run.log .warn
      "guided_options_request is deprecated; set guided_decoding on the sampling params instead"
    return some (← Run.check options.resolve)

/-- Truncation that sampling parameters ask for. It applies only where all prompts share them. -/
def truncationOf (svc : Service σ) : Broadcast SamplingParams → Except CallError (Option Truncation)
  | .one p => Truncation.resolve svc.model.maxModelLen p.truncatePromptTokens
  | .each _ => .ok none

/-- The sampling parameters of a call, which are the model's own where the call gives none. -/
def paramsOf (svc : Service σ) : Option (Broadcast SamplingParams) → Run σ τ (Broadcast SamplingParams)
  | some params => return params
  | none => return .one (← svc.defaultParams)

def generate (svc : Service σ) (ticks : Nat) (input : PromptInput) (options : GenerateOptions)
    (sink : Option (ProgressSink τ)) : Run σ τ (List Generation) := do
  Run.check svc.requireGeneration
  let prompts ← promptsOf input
  let guided ← guidanceOf options.guided
  let params ← svc.paramsOf options.params
  let truncation ← Run.check (svc.truncationOf params)
  let { lora, promptAdapter, steerVector, priority, .. } := options
  let batch : Batch :=
    { prompts, lora, promptAdapter, steerVector, priority, guided, truncation
      params := params.map .sampling }
  let updates ← svc.runBatch ticks batch (displayOf sink)
  Run.check (updates.mapM (·.toGeneration))

def encode (svc : Service σ) (ticks : Nat) (input : PromptInput) (options : EncodeOptions)
    (sink : Option (ProgressSink τ)) : Run σ τ (List Pooled) := do
  Run.check (svc.requirePooling "encode")
  let prompts ← promptsOf input
  let truncation ← Run.check (Truncation.resolve svc.model.maxModelLen options.truncate)
  let { lora, promptAdapter, steerVector, priority, .. } := options
  let batch : Batch :=
    { prompts, lora, promptAdapter, steerVector, priority, truncation
      params := (options.params.getD (.one {})).map .pooling }
  let updates ← svc.runBatch ticks batch (displayOf sink)
  Run.check (updates.mapM (·.toPooled))

def embed (svc : Service σ) (ticks : Nat) (input : PromptInput) (options : EncodeOptions)
    (sink : Option (ProgressSink τ)) : Run σ τ (List Embedding) := do
  Run.check (require (svc.model.task = .embed) (.unsupported .embedding))
  return (← svc.encode ticks input options sink).map (·.toEmbedding)

def classify (svc : Service σ) (ticks : Nat) (input : PromptInput) (options : EncodeOptions)
    (sink : Option (ProgressSink τ)) : Run σ τ (List Classification) := do
  Run.check (require (svc.model.task = .classify) (.unsupported .classification))
  return (← svc.encode ticks input options sink).map (·.toClassification)

end Service

end BatchInference
