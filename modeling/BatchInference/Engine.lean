import BatchInference.Request
import BatchInference.Update

/-!
The two collaborators of a service. Both are open: an engine is any state with these operations, a tokenizer any
set of functions. What an engine promises beyond its operations is stated where it is needed, as a predicate on
engines, so that statements about all engines stay possible.
-/

namespace BatchInference

/-- An engine that works on all its requests in ticks. Failures are the engine's own text; an operation that
fails may still have changed the engine. -/
structure Engine (σ : Type) where
  model : ModelConfig
  submit : σ → Request → Except String Unit × σ
  /-- Works one tick on every request and reports updates in any order. -/
  step : σ → Except String (List Update) × σ
  hasUnfinished : σ → Bool
  numUnfinished : σ → Nat

/-- What is asked of an engine while it works. -/
inductive EngineUse where
  | offered (request : Request)
  | stepped

/-- The same engine, keeping a list of what was asked of it. -/
def Engine.recorded {σ : Type} (e : Engine σ) : Engine (σ × List EngineUse) where
  model := e.model
  submit s r :=
    let (answer, next) := e.submit s.1 r
    (answer, (next, s.2 ++ [.offered r]))
  step s :=
    let (answer, next) := e.step s.1
    (answer, (next, s.2 ++ [.stepped]))
  hasUnfinished s := e.hasUnfinished s.1
  numUnfinished s := e.numUnfinished s.1

/-- Conversion between text and the tokens of a model. -/
structure Tokenizer where
  encode : String → List TokenId
  /-- A pair of texts as one input, cut to a length if one is given; also the segment of each token, for a model
  that uses segments. -/
  encodePair : String → String → Option Nat → List TokenId × Option (List TokenId)
  decode : List TokenId → String
  /-- The token that ends a sequence, for a model that has one. -/
  eos : Option TokenId

end BatchInference
