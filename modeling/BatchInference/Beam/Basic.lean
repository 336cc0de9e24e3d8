import BatchInference.Engine
import BatchInference.Error

/-!
Sequences of a beam search and how they are ranked.
-/

namespace BatchInference

/-- A prompt with the tokens generated after it. -/
structure BeamSequence where
  tokens : List TokenId
  logprobs : List Candidates := []
  lora : Option LoraAdapter := none
  cumLogprob : Binary32 := .zero
  /-- The text of all tokens, once the search is over. -/
  text : Option String := none
  companions : Companions := {}

namespace BeamSequence

/-- The prompt of the request that continues a sequence. -/
def toPrompt (s : BeamSequence) : Prompt := .tokens s.tokens none s.companions

/-- One more token, taken from the candidates reported for the sequence. -/
def extend (s : BeamSequence) (token : TokenId) (logprob : Binary32) (position : Candidates) : BeamSequence :=
  { s with
    tokens := s.tokens ++ [token]
    logprobs := s.logprobs ++ [position]
    cumLogprob := s.cumLogprob + logprob
    text := none }

/-- The sequence a search starts from. Embeddings have no tokens that could be followed by others. -/
def ofPrompt (tokenizer : Tokenizer) (prompt : Prompt) (lora : Option LoraAdapter) :
    Except CallError BeamSequence :=
  match prompt with
  | .text s companions => .ok { tokens := tokenizer.encode s, lora, companions }
  | .tokens ids _ companions => .ok { tokens := ids, lora, companions }
  | .embeds _ => .error (.invalidInput .beamEmbeds)

end BeamSequence

/-- How sequences are ranked: by log-probability over a power of the length. -/
structure BeamRanking where
  /-- A token that does not count towards the length where it is the last. -/
  eos : Option TokenId
  lengthPenalty : Binary32

namespace BeamRanking

variable {r : BeamRanking} {s : BeamSequence} {tokens front : List TokenId} {stop : TokenId}

def countedLength (r : BeamRanking) (tokens : List TokenId) : Nat :=
  if r.eos.isSome && tokens.getLast? == r.eos then tokens.length - 1 else tokens.length

theorem countedLength_of_ends (hstop : r.eos = some stop) : r.countedLength (front ++ [stop]) = front.length := by
  simp [countedLength, hstop]

theorem countedLength_of_goes_on (h : ∀ stop, r.eos = some stop → tokens.getLast? ≠ some stop) :
    r.countedLength tokens = tokens.length := by
  unfold countedLength
  cases hstop : r.eos with
  | none => rfl
  | some stop => simp [h stop hstop]

def score (r : BeamRanking) (s : BeamSequence) : Binary32 :=
  s.cumLogprob / (Binary32.ofNat (max (r.countedLength s.tokens) 1)).pow r.lengthPenalty

/-- Where the last token does not count, the score is the log-probability over a power of the length of the tokens
before it, which is taken to be one at least. -/
theorem score_of_ends (hstop : r.eos = some stop) (htokens : s.tokens = front ++ [stop]) :
    r.score s = s.cumLogprob / (Binary32.ofNat (max front.length 1)).pow r.lengthPenalty := by
  rw [score, htokens, countedLength_of_ends hstop]

/-- Everywhere else it is the same with the length of all tokens. -/
theorem score_of_goes_on (h : ∀ stop, r.eos = some stop → s.tokens.getLast? ≠ some stop) :
    r.score s = s.cumLogprob / (Binary32.ofNat (max s.tokens.length 1)).pow r.lengthPenalty := by
  rw [score, countedLength_of_goes_on h]

/-- Whether `a` may stand before `b`, best first. -/
def before (r : BeamRanking) (a b : BeamSequence) : Bool := (r.score b).totalLe (r.score a)

/-- Best first; sequences of one score keep their order. -/
def sorted (r : BeamRanking) (ss : List BeamSequence) : List BeamSequence := ss.mergeSort r.before

def keepBest (r : BeamRanking) (width : Nat) (ss : List BeamSequence) : List BeamSequence :=
  (r.sorted ss).take width

end BeamRanking

end BatchInference
