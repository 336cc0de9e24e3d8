import BatchInference.Proofs.Beam.Requests
import BatchInference.Scripted.Engine

/-!
What a rehearsed engine shows to the beams of a search. A beam's request asks for one token, and so the result holds
one position at most: the candidates to follow the prompt, or none if there are none or the prompt is aborted.
-/

namespace BatchInference.Scripted

namespace Answers

variable {a : Answers} {alphabet : Alphabet} {p : SamplingParams} {count : Nat} {ids : List TokenId}

/-- What is reported for the one token that is asked for after these. -/
def shown (a : Answers) (alphabet : Alphabet) (count : Nat) (ids : List TokenId) : Option Candidates :=
  if a.aborts ids || (a.ranked alphabet ids).isEmpty then none
  else some (reportedCandidates count (a.ranked alphabet ids))

/-- Candidates that a rule gives best first are ranked as they stand. -/
theorem ranked_of_rule {rule : ContinuationRule} (hrule : a.rules.find? (·.test.holds ids) = some rule)
    (hsorted : rule.candidates.Pairwise fun x y => y.2.totalLe x.2 = true) :
    a.ranked alphabet ids = rule.candidates := by
  rw [ranked, hrule]
  exact List.mergeSort_of_pairwise hsorted

theorem positions_extendDraft (hlogprobs : p.logprobs = some count) :
    (a.extendDraft alphabet p ids 1 0 {}).positions =
      if (a.ranked alphabet ids).isEmpty then [] else [reportedCandidates count (a.ranked alphabet ids)] := by
  have hcontext : ids ++ ({} : Draft).tokens = ids := List.append_nil ids
  unfold extendDraft
  rw [hcontext]
  cases a.ranked alphabet ids with
  | nil => rfl
  | cons first rest =>
    simp only [Nat.zero_min, List.getElem?_cons_zero, hlogprobs]
    split <;> rfl

/-- A result for one token holds what is shown after the prompt, whatever else was asked for. -/
theorem position?_generation (r : Request) (finished : Bool) (hcount : 0 < p.n) (hone : p.maxTokens = some 1)
    (hlogprobs : p.logprobs = some count) :
    Hypotheses.position? (a.generation alphabet r p finished) =
      a.shown alphabet count (promptIds alphabet r.prompt) := by
  have hmost : 0 < min p.n mostCompletions := by
    unfold mostCompletions
    omega
  have hfirst : (a.generation alphabet r p finished).outputs.head? =
      some (a.completion alphabet p (promptIds alphabet r.prompt) 0) := by
    simp [generation, List.head?_range, Nat.ne_of_gt hmost]
  have hlength : min ((some 1).getD 1) longestCompletion = 1 := rfl
  simp only [Hypotheses.position?, hfirst, completion, shown, hone, hlength]
  cases a.aborts (promptIds alphabet r.prompt) with
  | true => rfl
  | false =>
    simp only [hlogprobs, positions_extendDraft hlogprobs, Bool.false_or]
    cases a.ranked alphabet (promptIds alphabet r.prompt) <;> rfl

/-- The result on the request of a beam shows what there is to follow its tokens. -/
theorem position?_beamRequest {params : BeamParams} {beam : BeamSequence} {r : Request}
    (hr : r.toPendingRequest = beamRequest params beam) (finished : Bool) :
    Hypotheses.position? (a.generation alphabet r params.samplingParams finished) =
      a.shown alphabet (min (2 * params.beamWidth) maxCount) beam.tokens := by
  have hprompt : r.prompt = beam.toPrompt := congrArg PendingRequest.prompt hr
  rw [position?_generation r finished Nat.one_pos rfl rfl, hprompt]
  rfl

end Answers

/-- What an engine reports on the beams of a search, by the prompts of their requests. -/
def Plan.shown (plan : Plan) (params : BeamParams) (prompt : Prompt) (_ : Option LoraAdapter) : Option Candidates :=
  plan.answers.shown plan.alphabet (min (2 * params.beamWidth) maxCount) (Answers.promptIds plan.alphabet prompt)

end BatchInference.Scripted
