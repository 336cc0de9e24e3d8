import BatchInference.Score
import BatchInference.Beam.Lockstep

/-!
Histories of calls. A session is a number of services that draw their request ids from one counter; a call visits
one of them and leaves the engine, the counter and the remembered defaults for the calls that follow.
-/

namespace BatchInference

inductive Call where
  | generate (prompts : PromptInput) (options : GenerateOptions)
  | encode (prompts : PromptInput) (options : EncodeOptions)
  | embed (prompts : PromptInput) (options : EncodeOptions)
  | classify (prompts : PromptInput) (options : EncodeOptions)
  | score (left right : PromptInput) (options : ScoreOptions)
  | beamSearch (prompts : List Prompt) (params : BeamParams) (lora : Broadcast (Option LoraAdapter))

inductive Answer where
  | generations (outputs : List Generation)
  | pooled (outputs : List Pooled)
  | embeddings (outputs : List Embedding)
  | classifications (outputs : List Classification)
  | scores (outputs : List PairScore)
  | beams (outputs : List (List BeamSequence))

def Service.call {σ τ : Type} (svc : Service σ) (ticks : Nat) (sink : Option (ProgressSink τ)) :
    Call → Run σ τ Answer
  | .generate prompts options => return .generations (← svc.generate ticks prompts options sink)
  | .encode prompts options => return .pooled (← svc.encode ticks prompts options sink)
  | .embed prompts options => return .embeddings (← svc.embed ticks prompts options sink)
  | .classify prompts options => return .classifications (← svc.classify ticks prompts options sink)
  | .score left right options => return .scores (← svc.score ticks left right options sink)
  | .beamSearch prompts params lora => return .beams (← svc.beamSearch ticks prompts params lora sink)

/-- A service with what it keeps from one call to the next. -/
structure Station (σ : Type) where
  service : Service σ
  engine : σ
  defaults : Option SamplingParams := none

/-- Services on one counter. -/
structure Session (σ : Type) where
  counter : IdCounter
  stations : List (Station σ)

/-- What an activity leaves for whoever asked for it. -/
structure Visit (τ α : Type) where
  result : Except Halt α
  sink : τ
  log : List LogRecord

/-- Runs an activity at one station. -/
def Session.visit {σ τ α : Type} (s : Session σ) (index : Nat) (sink : τ)
    (act : Service σ → Run σ τ α) : Option (Visit τ α × Session σ) := do
  let station ← s.stations[index]?
  let world : World σ τ := { engine := station.engine, counter := s.counter, sink, defaults := station.defaults }
  let (result, world) := (act station.service).outcome world
  let station := { station with engine := world.engine, defaults := world.defaults }
  return (⟨result, world.sink, world.log⟩, ⟨world.counter, s.stations.set index station⟩)

end BatchInference
