import BatchInference.Scripted.Tokenizer

/-!
What a rehearsed engine answers. Continuations come from rules on the tokens so far, or else from fixed offsets
to the last token; pooled vectors come from rules on the prompt, or else are counts.
-/

namespace BatchInference.Scripted

/-- When a rule for continuations applies. -/
inductive ContextTest where
  | exactly (tokens : List TokenId)
  | endsWith (tokens : List TokenId)

def ContextTest.holds (context : List TokenId) : ContextTest → Bool
  | .exactly tokens => context == tokens
  | .endsWith tokens => tokens.isSuffixOf context

structure ContinuationRule where
  test : ContextTest
  candidates : List (TokenId × Binary32)

/-- How an engine answers its requests. -/
structure Answers where
  rules : List ContinuationRule := []
  /-- Continuations by distance from the last token, where no rule applies. -/
  offsets : List (Int × Binary32)
  vectors : List (List TokenId × List Binary32) := []
  /-- Tokens that are counted, where no vector is given. -/
  counted : Option (List TokenId) := none
  /-- Prompts of at least this length are aborted. -/
  abortLength : Option Nat := none
  /-- Prompts that end in one of these tokens are aborted. -/
  abortLast : List TokenId := []

namespace Answers

variable (a : Answers) (alphabet : Alphabet)

/-- Candidates to follow a context, best first. -/
def ranked (context : List TokenId) : List (TokenId × Binary32) :=
  let found :=
    match a.rules.find? (·.test.holds context) with
    | some rule => rule.candidates
    | none =>
      let last := context.getLast?.getD alphabet.separator
      a.offsets.map fun (offset, logprob) => (UInt32.ofInt (last.toNat + offset), logprob)
  found.mergeSort fun x y => y.2.totalLe x.2

def promptIds : Prompt → List TokenId
  | .text s _ => Alphabet.encode s
  | .tokens ids _ _ => ids
  | .embeds rows => rows.map fun _ => alphabet.separator

def pooledData (ids : List TokenId) : List Binary32 :=
  match a.vectors.lookup ids with
  | some data => data
  | none =>
    match a.counted with
    | some tokens => tokens.map fun t => .ofNat (ids.count t)
    | none => [.ofNat ids.length, .one]

def aborts (ids : List TokenId) : Bool :=
  a.abortLength.any (· ≤ ids.length) || ids.getLast?.any (a.abortLast.contains ·)

/-- The first candidates as they are reported, ranked from one. -/
def reportedCandidates (count : Nat) (candidates : List (TokenId × Binary32)) : Candidates :=
  .ofList ((candidates.take count).zipIdx.map fun ((token, logprob), i) => (token, ⟨logprob, some (i + 1), none⟩))

/-- What a completion has produced so far. -/
structure Draft where
  tokens : List TokenId := []
  cumulative : Binary32 := .zero
  positions : List Candidates := []
  finish : FinishReason := .length

/-- Adds up to `remaining` tokens after a context, of which the first is the candidate in place `pick`. -/
def extendDraft (params : SamplingParams) (ids : List TokenId) :
    (remaining pick : Nat) → Draft → Draft
  | 0, _, draft => draft
  | remaining + 1, pick, draft =>
    let candidates := a.ranked alphabet (ids ++ draft.tokens)
    match candidates[min pick (candidates.length - 1)]? with
    | none => draft
    | some (token, logprob) =>
      let positions :=
        match params.logprobs with
        | none => draft.positions
        | some count => draft.positions ++ [reportedCandidates count candidates]
      let next : Draft :=
        { tokens := draft.tokens ++ [token], cumulative := draft.cumulative + logprob, positions }
      if (some token == alphabet.eos && !params.ignoreEos) || params.stopTokenIds.contains token then
        { next with finish := .stop }
      else extendDraft params ids remaining 0 next

def longestCompletion : Nat := 64

def mostCompletions : Nat := 4

def completion (params : SamplingParams) (ids : List TokenId) (index : Nat) : Completion :=
  if a.aborts ids then ⟨index, "", [], none, none, some .abort⟩
  else
    let length := min (params.maxTokens.getD 1) longestCompletion
    let draft := a.extendDraft alphabet params ids length index {}
    { index
      text := alphabet.decode draft.tokens
      tokenIds := draft.tokens
      cumulativeLogprob := some draft.cumulative
      logprobs := params.logprobs.map fun _ => draft.positions
      finishReason := some draft.finish }

def generation (r : Request) (params : SamplingParams) (finished : Bool) : Generation :=
  let ids := promptIds alphabet r.prompt
  { id := r.id
    prompt := r.prompt.text?
    promptTokenIds := ids
    outputs := (List.range (min params.n mostCompletions)).map (a.completion alphabet params ids)
    finished }

def pooled (r : Request) (finished : Bool) : Pooled :=
  let ids := promptIds alphabet r.prompt
  ⟨r.id, ids, a.pooledData ids, finished⟩

/-- The update on a request, of the kind its parameters ask for or of the other kind. -/
def update (r : Request) (otherKind finished : Bool) : Update :=
  match r.params, otherKind with
  | .sampling params, false => .generation (a.generation alphabet r params finished)
  | .pooling _, true => .generation (a.generation alphabet r { maxTokens := some 1 } finished)
  | _, _ => .pooled (a.pooled alphabet r finished)

end Answers

end BatchInference.Scripted
