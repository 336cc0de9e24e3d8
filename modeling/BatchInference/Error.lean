import BatchInference.Params.Text
import BatchInference.RequestId

/-!
Why a call fails. Errors are causes; their wording stands here once. All of them but an engine failure and an
unexpected output are meant to be found before a request is numbered or handed to the engine. Vectors of different
sizes are not: a score call finds them when its batch is done.
-/

namespace BatchInference

/-- The model, as configured, does not offer the operation. -/
inductive Unsupported where
  /-- The engine does not generate; where the model could, the runner it was started with. -/
  | generation (startedFor : Option Runner)
  /-- The engine does not pool, which the operation needs; where the model could, the runner it was started with. -/
  | pooling (operation : String) (startedFor : Option Runner)
  | embedding
  | classification
  | scoring
  | scoringLabels
  | shorterVectors
  deriving DecidableEq, Repr

/-- Two settings exclude each other. -/
inductive Conflict where
  | guidedOptions (options : GuidedOptions)
  | guidedTwice
  | guidedModes

/-- A value is out of its range, or an input cannot be used in its place. -/
inductive InvalidInput where
  | completions (n : Nat)
  | temperature (x : Binary32)
  | topP (x : Binary32)
  | topK
  | minP (x : Binary32)
  | repetitionPenalty (x : Binary32)
  | maxTokens
  | dimensions
  | beamWidth
  | beamWidthTooLarge (width : Nat)
  | beamSteps
  | lengthPenalty (x : Binary32)
  | truncation (requested : Int) (window : Nat)
  | noPrompts
  | splitLengths
  | beamEmbeds
  | scorePayload
  | scoreEmbeds
  | scoreShape
  | noQueries
  | noDocuments
  | vectorSizes (left right : Nat)
  deriving DecidableEq, Repr

/-- What is wrong with the engine's work. -/
inductive EngineFailure where
  | reported (text : String)
  /-- A step of a beam search got a different number of results than it has beams. -/
  | beamResults (finished beams : Nat)
  deriving DecidableEq, Repr

inductive CallError where
  /-- A per-prompt argument has a different length than the batch. -/
  | shapeMismatch (argument : String) (expected actual : Nat)
  | unsupported (cause : Unsupported)
  | conflictingConfig (cause : Conflict)
  | invalidInput (cause : InvalidInput)
  /-- The engine finished a request with an output the call cannot use. -/
  | unexpectedOutput (id : RequestId) (expected actual : String)
  | engine (failure : EngineFailure)

namespace Unsupported

/-- How to get the runner, for a model that could be started with it. -/
private def advice (wanted : Runner) (tasks : String) : Option Runner → String
  | none => ""
  | some started =>
    " Your model supports the '" ++ wanted.name ++ "' runner, but is currently initialized for the '" ++
      started.name ++ "' runner. Please initialize the engine with the " ++ tasks ++ " task."

def message : Unsupported → String
  | .generation started =>
    "generate is only supported for (conditional) generation models " ++
      "(XForCausalLM, XForConditionalGeneration)." ++ advice .generate "generate" started
  | .pooling operation started =>
    operation ++ " is only supported for pooling models." ++
      advice .pooling "embed, classify or score" started
  | .embedding => "Embedding API is only enabled for models serving the embed task"
  | .classification => "Classification API is only enabled for models serving the classify task"
  | .scoring => "Score API is only enabled for models serving the embed or classify task."
  | .scoringLabels => "Score API is only enabled for num_labels == 1."
  | .shorterVectors =>
    "Model does not support matryoshka representation, changing output dimensions will lead to poor results."

end Unsupported

def Conflict.message : Conflict → String
  | .guidedOptions options =>
    "You can only use one guided decoding but multiple is specified: " ++ Diagnostic.text options
  | .guidedTwice => "Cannot set both guided_options_request and params.guided_decoding."
  | .guidedModes => "Only one guided decoding mode may be set per request"

def InvalidInput.message : InvalidInput → String
  | .completions n => "n must be at least 1, got " ++ toString n
  | .temperature x => "temperature must be non-negative, got " ++ x.text .plain
  | .topP x => "top_p must be in (0, 1], got " ++ x.text .plain
  | .topK => "top_k must be at least 1 when set"
  | .minP x => "min_p must be in [0, 1], got " ++ x.text .plain
  | .repetitionPenalty x => "repetition_penalty must be greater than zero, got " ++ x.text .plain
  | .maxTokens => "max_tokens must be at least 1 when set"
  | .dimensions => "dimensions must be at least 1"
  | .beamWidth => "beam_width must be at least 1"
  | .beamWidthTooLarge width => "beam_width " ++ toString width ++ " is too large"
  | .beamSteps => "max_tokens must be at least 1"
  | .lengthPenalty x => "length_penalty must be finite, got " ++ x.text .plain
  | .truncation requested window =>
    "truncate_prompt_tokens value (" ++ toString requested ++ ") is greater than max_model_len (" ++
      toString window ++ "). Please, select a smaller truncation size."
  | .noPrompts => "Either prompts or prompt_token_ids must be provided."
  | .splitLengths => "The lengths of prompts and prompt_token_ids must be the same."
  | .beamEmbeds => "Beam search needs text or token prompts, got embeds"
  | .scorePayload => "Multi-modal prompt is not supported for scoring"
  | .scoreEmbeds => "Embeds prompts cannot be scored"
  | .scoreShape => "Input lengths must be either 1:1, 1:N or N:N"
  | .noQueries => "At least one text element must be given"
  | .noDocuments => "At least one text_pair element must be given"
  | .vectorSizes left right =>
    "Cannot compare embeddings of different sizes: " ++ toString left ++ " and " ++ toString right

def EngineFailure.message : EngineFailure → String
  | .reported text => text
  | .beamResults finished beams =>
    "engine finished " ++ toString finished ++ " of " ++ toString beams ++ " beam requests"

def CallError.message : CallError → String
  | .shapeMismatch argument expected actual =>
    "The lengths of prompts and " ++ argument ++ " must be the same: expected " ++ toString expected ++
      ", got " ++ toString actual
  | .unsupported cause => cause.message
  | .conflictingConfig cause => cause.message
  | .invalidInput cause => cause.message
  | .unexpectedOutput id expected actual =>
    "Expected " ++ expected ++ " output for request " ++ id.text ++ ", got " ++ actual
  | .engine failure => failure.message

/-- Whether the call was refused for what its caller asked. -/
def CallError.isRefusal : CallError → Bool
  | .shapeMismatch .. | .unsupported _ | .conflictingConfig _ | .invalidInput _ => true
  | .unexpectedOutput .. | .engine _ => false

end BatchInference
