import BatchInference.Batch.Calls
import BatchInference.Beam.Hypotheses

/-!
Beam search. All prompts advance in lock step: a step submits one request for a single token per active beam, as
one batch, and hands each beam its result. The search ends after a number of steps or when no beam is left.
-/

namespace BatchInference.Service

variable {σ τ : Type}

/-- The batch of one step: every active beam, prompt by prompt, with its prompt's adapter. -/
def beamBatch (params : BeamParams) (beams : List BeamSequence) : Batch :=
  { prompts := beams.map (·.toPrompt)
    params := .one (.sampling params.stepParams)
    lora := .each (beams.map (·.lora)) }

def beamResults (svc : Service σ) (ticks : Nat) (params : BeamParams) (beams : List BeamSequence) :
    Run σ τ (List Generation) := do
  let updates ← svc.runBatch ticks (beamBatch params beams) (.silent τ)
  let results ← Run.check (updates.mapM (·.toGeneration))
  Run.check (require (results.length = beams.length)
    (.engine (.beamResults results.length beams.length)))
  return results

/-- Takes up to `remaining` more steps, of which the first is number `step`. -/
def beamSteps (svc : Service σ) (ticks : Nat) (params : BeamParams) (rule : BeamRule) (sink : ProgressSink τ) :
    (remaining step : Nat) → List Hypotheses → Run σ τ (List Hypotheses)
  | 0, _, hs => return hs
  | remaining + 1, step, hs => do
    let beams := hs.flatMap (·.active)
    if beams.isEmpty then
      Run.log .debug ("Every beam finished after " ++ toString step ++ " steps")
      return hs
    else
      let results ← svc.beamResults ticks params beams
      let hs := Hypotheses.advanceAll rule hs results
      Run.log .debug ("Beam search step " ++ toString step ++ ": " ++
        toString (hs.flatMap (·.active)).length ++ " active beams, " ++
        toString (hs.countP (·.isExhausted)) ++ " prompts exhausted")
      Run.report sink (.advance 1)
      svc.beamSteps ticks params rule sink remaining (step + 1) hs

/-- How a search ranks and what ends a beam. The end-of-sequence token never counts towards the length, also
where it ends nothing. -/
def beamRule (svc : Service σ) (params : BeamParams) : BeamRule where
  ranking := ⟨svc.tokenizer.eos, params.lengthPenalty⟩
  width := params.beamWidth
  stopToken := if params.ignoreEos then none else svc.tokenizer.eos

/-- What a caller is told who watches a search. -/
def beamProgressNote : String :=
  "The progress bar shows the upper bound on token steps and may finish early due to stopping conditions. " ++
    "It does not reflect instance-level progress."

/-- The best sequences for every prompt, best first, in the order of the prompts. The display is closed when the
search is over; an error leaves it as it is. -/
def beamSearch (svc : Service σ) (ticks : Nat) (prompts : List Prompt) (params : BeamParams)
    (lora : Broadcast (Option LoraAdapter)) (sink : Option (ProgressSink τ)) :
    Run σ τ (List (List BeamSequence)) := do
  Run.check svc.requireGeneration
  Run.check params.verify
  let loras ← Run.check (lora.resolve "lora_request" prompts.length)
  let rule := svc.beamRule params
  let roots ← Run.check ((prompts.zip loras).mapM fun (prompt, lora) =>
    BeamSequence.ofPrompt svc.tokenizer prompt lora)
  Run.logWhen sink.isSome .warn beamProgressNote
  let display := displayOf sink
  Run.report display (.start "Beam search" params.maxTokens)
  let hs ← svc.beamSteps ticks params rule display params.maxTokens 0 (roots.map fun root => ⟨[root], []⟩)
  Run.report display .close
  return hs.map (·.finish rule svc.tokenizer)

end BatchInference.Service
