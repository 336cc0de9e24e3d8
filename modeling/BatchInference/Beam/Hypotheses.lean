import BatchInference.Beam.Basic

/-!
The state of a beam search for one prompt: beams still being extended, and those that have ended. One step
extends every active beam by every candidate reported for it, sets aside what ends, and keeps the best of the
rest.
-/

namespace BatchInference

structure Hypotheses where
  /-- Sequences still being extended, best first. -/
  active : List BeamSequence
  /-- Sequences that have ended, in the order in which they did. -/
  completed : List BeamSequence := []

/-- What a search looks for besides the next token: how it ranks, how many beams it keeps, and the token that
ends a beam, if one does. -/
structure BeamRule where
  ranking : BeamRanking
  width : Nat
  stopToken : Option TokenId

namespace Hypotheses

/-- The candidates a result reports for the one token it was asked for; none if it ended without a token. -/
def position? (g : Generation) : Option Candidates := do
  (← (← g.outputs.head?).logprobs).head?

/-- They are read off the first position of the first completion. -/
theorem position?_eq_some_iff {g : Generation} {position : Candidates} : position? g = some position ↔
    ∃ first others later, g.outputs = first :: others ∧ first.logprobs = some (position :: later) := by
  simp only [position?, Option.bind_eq_bind, Option.bind_eq_some_iff, List.head?_eq_some_iff]
  constructor
  · rintro ⟨first, ⟨others, houtputs⟩, _, hlogprobs, later, rfl⟩
    exact ⟨first, others, later, houtputs, hlogprobs⟩
  · rintro ⟨first, others, later, houtputs, hlogprobs⟩
    exact ⟨first, ⟨others, houtputs⟩, _, hlogprobs, later, rfl⟩

/-- A beam extended by every candidate of its result, in order of their tokens. -/
def extensions (beam : BeamSequence) (result : Generation) : List BeamSequence :=
  match position? result with
  | none => []
  | some position => position.entries.map fun e => beam.extend e.1 e.2.logprob position

def endsIn (stopToken : Option TokenId) (s : BeamSequence) : Bool :=
  stopToken.isSome && s.tokens.getLast? == stopToken

/-- Every extension of every active beam by its own result. -/
def expansions (h : Hypotheses) (results : List Generation) : List BeamSequence :=
  (h.active.zip results).flatMap fun (beam, result) => extensions beam result

def advance (rule : BeamRule) (h : Hypotheses) (results : List Generation) : Hypotheses :=
  let all := h.expansions results
  { active := rule.ranking.keepBest rule.width (all.filter (!endsIn rule.stopToken ·))
    completed := h.completed ++ all.filter (endsIn rule.stopToken) }

def isExhausted (h : Hypotheses) : Bool := h.active.isEmpty

/-- Everything a search has found for its prompt; what has ended comes before what has not. -/
def pool (h : Hypotheses) : List BeamSequence := h.completed ++ h.active

def finish (rule : BeamRule) (tokenizer : Tokenizer) (h : Hypotheses) : List BeamSequence :=
  (rule.ranking.keepBest rule.width h.pool).map fun s => { s with text := some (tokenizer.decode s.tokens) }

/-- One step for several prompts at once: the results stand in the order of the prompts and, for each prompt, of
its active beams. -/
def advanceAll (rule : BeamRule) : List Hypotheses → List Generation → List Hypotheses
  | [], _ => []
  | h :: rest, results =>
    h.advance rule (results.take h.active.length) :: advanceAll rule rest (results.drop h.active.length)

end Hypotheses

end BatchInference
