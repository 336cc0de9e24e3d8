import BatchInference.PromptInput
import BatchInference.Request

/-!
Checking a whole batch before anything happens. A batch that passes is a list of requests that lack nothing but
their ids; one that does not is refused for the first thing wrong with it: the length of an argument, then the
parameters in order.
-/

namespace BatchInference

/-- Everything one call wants submitted, as its caller gave it. -/
structure Batch where
  prompts : List Prompt
  params : Broadcast RequestParams
  lora : Broadcast (Option LoraAdapter) := .one none
  promptAdapter : Option PromptAdapter := none
  steerVector : Option SteerVector := none
  /-- Guidance that goes into the sampling parameters of every request. -/
  guided : Option GuidedDecoding := none
  truncation : Option Truncation := none
  priority : Option (List Int32) := none

/-- Sampling parameters as they are submitted: with the call's guidance, which excludes any of their own, and
reporting nothing until the end, because only finished results are collected. -/
def SamplingParams.finalize (guided : Option GuidedDecoding) (p : SamplingParams) :
    Except CallError SamplingParams :=
  match guided, p.guidedDecoding with
  | some _, some _ => .error (.conflictingConfig .guidedTwice)
  | some g, none => .ok { p with guidedDecoding := some g, outputKind := .finalOnly }
  | none, _ => .ok { p with outputKind := .finalOnly }

def RequestParams.finalize (guided : Option GuidedDecoding) (model : ModelConfig) (p : RequestParams) :
    Except CallError RequestParams := do
  let p ←
    match p with
    | .sampling s => do pure (RequestParams.sampling (← s.finalize guided))
    | .pooling _ => pure p
  p.verify model
  return p

namespace Batch

/-- The request for one prompt with its own arguments and those it shares. -/
def pending (b : Batch) (prompt : Prompt) (params : RequestParams) (lora : Option LoraAdapter)
    (priority : Int32) : PendingRequest :=
  { prompt, params, priority
    adapters := ⟨lora, b.promptAdapter, b.steerVector⟩
    truncation := b.truncation }

def assemble (b : Batch) : List Prompt → List RequestParams → List (Option LoraAdapter) → List Int32 →
    List PendingRequest
  | prompt :: prompts, params :: paramss, lora :: loras, priority :: priorities =>
    b.pending prompt params lora priority :: b.assemble prompts paramss loras priorities
  | _, _, _, _ => []

def prepare (b : Batch) (model : ModelConfig) : Except CallError (List PendingRequest) := do
  let n := b.prompts.length
  b.params.checkLength "params" n
  b.lora.checkLength "lora_request" n
  let priorities ← resolvePriorities n b.priority
  let params ← b.params.traverse (·.finalize b.guided model)
  let params ← params.resolve "params" n
  let loras ← b.lora.resolve "lora_request" n
  return b.assemble b.prompts params loras priorities

end Batch

end BatchInference
