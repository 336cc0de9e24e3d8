import BatchInference.Batch.Calls

/-!
Scores of text pairs. A model that embeds gets both sides and its vectors are compared; a model that reads pairs
gets each pair as one input and pools it to a score. One text on the left goes with every text on the right,
otherwise the sides go together one by one.
-/

namespace BatchInference

structure ScoreOptions where
  /-- Keep only this many last tokens; a negative number means the whole context window. -/
  truncate : Option Int := none
  lora : Option LoraAdapter := none
  promptAdapter : Option PromptAdapter := none
  steerVector : Option SteerVector := none

namespace Score

/-- Checks that the sides go together as one to one, one to many, or many to as many. -/
def checkSides (left right : Nat) : Except CallError Unit := do
  require (!(1 < left && left != right)) (.invalidInput .scoreShape)
  require (left != 0) (.invalidInput .noQueries)
  require (right != 0) (.invalidInput .noDocuments)

/-- Each item on the right with its partner on the left, which starts again from the front when it runs out. -/
def pairUp {α β : Type} (left : List α) (right : List β) : List (α × β) :=
  right.zipIdx.filterMap fun (r, i) => left[i % left.length]?.map (·, r)

/-- The least product of norms that is divided by. -/
def leastNorm : Binary32 := ⟨0x322bcc77⟩

def norm (v : List Binary32) : Binary32 := (Binary32.sum (v.map fun x => x * x)).sqrt

/-- Cosine of the angle between two vectors of one length. -/
def cosine (left right : List Binary32) : Except CallError Binary32 :=
  if left.length = right.length then
    let dot := Binary32.sum (List.zipWith (· * ·) left right)
    .ok (dot / (norm left * norm right).max leastNorm)
  else .error (.invalidInput (.vectorSizes left.length right.length))

/-- Vectors of one length are compared by their scalar product over the product of their norms, which is `leastNorm` at
least. -/
theorem cosine_eq_ok_iff {left right : List Binary32} {value : Binary32} :
    cosine left right = .ok value ↔ left.length = right.length ∧
      value = Binary32.sum (List.zipWith (· * ·) left right) /
        ((Binary32.sum (left.map fun x => x * x)).sqrt * (Binary32.sum (right.map fun x => x * x)).sqrt).max
          leastNorm := by
  unfold cosine norm
  split
  case isTrue hlength => simp [hlength, eq_comm]
  case isFalse hlength => simp [hlength]

theorem cosine_eq_error_iff {left right : List Binary32} {e : CallError} :
    cosine left right = .error e ↔ left.length ≠ right.length ∧
      e = .invalidInput (.vectorSizes left.length right.length) := by
  unfold cosine
  split
  case isTrue hlength => simp [hlength]
  case isFalse hlength => simp [hlength, eq_comm]

def ofPair (query document : Pooled) : Except CallError PairScore := do
  let score ← cosine query.data document.data
  return ⟨query.id.text ++ "_" ++ document.id.text, query.promptTokenIds ++ document.promptTokenIds, score⟩

/-- Score of a pair that was pooled as one input: the first value. -/
def ofPooled (p : Pooled) : Except CallError PairScore :=
  match p.data with
  | score :: _ => .ok ⟨p.id.text, p.promptTokenIds, score⟩
  | [] => .error (.unexpectedOutput p.id "a score" "empty pooled output")

def textOf (tokenizer : Tokenizer) (p : Prompt) : Except CallError String :=
  if p.payload.isSome then .error (.invalidInput .scorePayload)
  else
    match p with
    | .text s _ => .ok s
    | .tokens ids _ _ => .ok (tokenizer.decode ids)
    | .embeds _ => .error (.invalidInput .scoreEmbeds)

end Score

namespace Service

variable {σ τ : Type}

def requireScoring (svc : Service σ) : Except CallError Unit :=
  match svc.model.task with
  | .embed => .ok ()
  | .classify => require (svc.model.numLabels = some 1) (.unsupported .scoringLabels)
  | _ => .error (.unsupported .scoring)

def scoreTexts (svc : Service σ) (input : PromptInput) : Run σ τ (List String) := do
  let prompts ← promptsOf input
  Run.check (prompts.mapM (Score.textOf svc.tokenizer))

/-- Scores by comparing the vectors of both sides, which are pooled as one batch. -/
def scoreByVectors (svc : Service σ) (ticks : Nat) (left right : List String) (options : ScoreOptions)
    (sink : Option (ProgressSink τ)) : Run σ τ (List PairScore) := do
  let { truncate, promptAdapter, steerVector, .. } := options
  let vectors ← svc.encode ticks (.batch ((left ++ right).map .ofText))
    { truncate, promptAdapter, steerVector, lora := .one options.lora } sink
  let queries := vectors.take left.length
  let documents := vectors.drop left.length
  Run.log .debug ("Comparing " ++ toString queries.length ++ " queries against " ++
    toString documents.length ++ " documents")
  Run.check ((Score.pairUp queries documents).mapM fun (q, d) => Score.ofPair q d)

/-- The inputs of a model that reads pairs, cut to a length if one is given. -/
def pairPrompts (svc : Service σ) (maxLength : Option Nat) (left right : List String) : List Prompt :=
  (Score.pairUp left right).map fun (query, document) =>
    let (ids, typeIds) := svc.tokenizer.encodePair query document maxLength
    .tokens ids typeIds {}

/-- Scores by reading each pair as one input. The inputs are cut here, so the engine's tokenizer is told nothing
about truncation. -/
def scoreByPairs (svc : Service σ) (ticks : Nat) (left right : List String) (options : ScoreOptions)
    (sink : Option (ProgressSink τ)) : Run σ τ (List PairScore) := do
  let truncation ← Run.check (Truncation.resolve svc.model.maxModelLen options.truncate)
  let { promptAdapter, steerVector, .. } := options
  let batch : Batch :=
    { promptAdapter, steerVector
      prompts := svc.pairPrompts (truncation.map (·.maxLength)) left right
      params := .one (.pooling {})
      lora := .one options.lora }
  let updates ← svc.runBatch ticks batch (displayOf sink)
  let outputs ← Run.check (updates.mapM (·.toPooled))
  Run.check (outputs.mapM Score.ofPooled)

/-- One score per text on the right, in order. -/
def score (svc : Service σ) (ticks : Nat) (left right : PromptInput) (options : ScoreOptions)
    (sink : Option (ProgressSink τ)) : Run σ τ (List PairScore) := do
  Run.check (svc.requirePooling "score")
  Run.check svc.requireScoring
  let left ← svc.scoreTexts left
  let right ← svc.scoreTexts right
  Run.check (Score.checkSides left.length right.length)
  if svc.model.isCrossEncoder then svc.scoreByPairs ticks left right options sink
  else svc.scoreByVectors ticks left right options sink

end Service

end BatchInference
