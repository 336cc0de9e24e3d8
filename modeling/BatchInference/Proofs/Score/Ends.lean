import BatchInference.Proofs.Batch.Answers

/-!
How a score call ends. Like the calls that run one batch it is a check of its arguments, which gives the texts of
both sides, a batch, and a view of the updates: the comparison of the vectors of both sides, or the reading of one
score from each pair.
-/

namespace BatchInference.Service

open Run

variable {σ τ : Type}

/-- The texts of one side, in order. -/
def textsOf (tokenizer : Tokenizer) (input : PromptInput) : Except CallError (List String) := do
  (← input.normalize).mapM (Score.textOf tokenizer)

/-- The texts of both sides, once they have passed. -/
def scoreSides (svc : Service σ) (left right : PromptInput) : Except CallError (List String × List String) := do
  svc.requirePooling "score"
  svc.requireScoring
  let lefts ← textsOf svc.tokenizer left
  let rights ← textsOf svc.tokenizer right
  Score.checkSides lefts.length rights.length
  return (lefts, rights)

/-- The batch that pools both sides, or each pair. -/
def scoreBatch (svc : Service σ) (options : ScoreOptions) (lefts rights : List String) : Except CallError Batch :=
  if svc.model.isCrossEncoder then do
    let truncation ← Truncation.resolve svc.model.maxModelLen options.truncate
    return { prompts := svc.pairPrompts (truncation.map (·.maxLength)) lefts rights
             params := .one (.pooling {})
             lora := .one options.lora
             promptAdapter := options.promptAdapter
             steerVector := options.steerVector }
  else
    svc.encodeBatch (.batch ((lefts ++ rights).map .ofText))
      { truncate := options.truncate, promptAdapter := options.promptAdapter, steerVector := options.steerVector
        lora := .one options.lora }

/-- All checks of the call before anything happens. -/
def scoreRequest (svc : Service σ) (left right : PromptInput) (options : ScoreOptions) :
    Except CallError (List String × List String × Batch) := do
  let (lefts, rights) ← svc.scoreSides left right
  return (lefts, rights, ← svc.scoreBatch options lefts rights)

/-- The scores that the updates on the batch come to, of which the first are on the queries. -/
def scoresOf (svc : Service σ) (queries : Nat) (us : List Update) : Except CallError (List PairScore) := do
  let outputs ← us.mapM (·.toPooled)
  if svc.model.isCrossEncoder then outputs.mapM Score.ofPooled
  else (Score.pairUp (outputs.take queries) (outputs.drop queries)).mapM fun (q, d) => Score.ofPair q d

variable {svc : Service σ} {w : World σ τ} {core : Core σ} {ticks : Nat} {sink : Option (ProgressSink τ)}
  {input left right : PromptInput} {options : ScoreOptions} {texts lefts rights : List String} {batch : Batch}
  {err : CallError}

theorem scoreTexts_ok (h : textsOf svc.tokenizer input = .ok texts) (hw : w.core = core) :
    (svc.scoreTexts input).Ends w (.ok texts) core := by
  obtain ⟨prompts, hprompts, htexts⟩ := bind_eq_ok.mp h
  exact (promptsOf_ok hprompts hw).bind fun _ h₁ => ends_check_ok htexts h₁

theorem scoreTexts_error (h : textsOf svc.tokenizer input = .error err) (hw : w.core = core) :
    (svc.scoreTexts input).Ends w (.error (.failed err)) core := by
  rcases bind_eq_error.mp h with hprompts | ⟨prompts, hprompts, htexts⟩
  · exact (promptsOf_error hprompts hw).bind_error
  · exact (promptsOf_ok hprompts hw).bind fun _ h₁ => ends_check_error htexts h₁

/-- Vectors of both sides are pooled as one batch and then compared. -/
theorem scoreByVectors_ends (hmodel : svc.model.isCrossEncoder = false)
    (hbatch : svc.scoreBatch options lefts rights = .ok batch) (hw : w.core = core) :
    (svc.scoreByVectors ticks lefts rights options sink).Ends w
      (resultOf (svc.batchEnd ticks batch core).1 (svc.scoresOf lefts.length)) (svc.batchEnd ticks batch core).2 := by
  simp only [scoreBatch, hmodel, Bool.false_eq_true, if_false] at hbatch
  unfold scoresOf
  simp only [hmodel, Bool.false_eq_true, if_false]
  rw [← resultOf_resultOf]
  refine (svc.encode_valid hbatch hw fun w' hw' => svc.runBatch_ends ticks batch _ hw').followed fun vectors w₁ h₁ => ?_
  apply (ends_log _ _ h₁).bind
  intro w₂ h₂
  exact ends_check _ h₂

/-- Each pair is pooled as one input and its score read from the vector. -/
theorem scoreByPairs_ends (hmodel : svc.model.isCrossEncoder = true)
    (hbatch : svc.scoreBatch options lefts rights = .ok batch) (hw : w.core = core) :
    (svc.scoreByPairs ticks lefts rights options sink).Ends w
      (resultOf (svc.batchEnd ticks batch core).1 (svc.scoresOf lefts.length)) (svc.batchEnd ticks batch core).2 := by
  simp only [scoreBatch, hmodel, if_true] at hbatch
  obtain ⟨truncation, htruncation, hbatch⟩ := bind_eq_ok.mp hbatch
  cases hbatch
  unfold scoresOf
  simp only [hmodel, if_true]
  apply (ends_check_ok htruncation hw).bind
  intro w₁ h₁
  refine (svc.runBatch_ends ticks _ _ h₁).followed fun us w₂ h₂ => ?_
  rw [← resultOf_resultOf]
  exact (ends_check (us.mapM (·.toPooled)) h₂).checked _

theorem scoreSides_eq_ok : svc.scoreSides left right = .ok (lefts, rights) ↔
    svc.requirePooling "score" = .ok () ∧ svc.requireScoring = .ok () ∧ textsOf svc.tokenizer left = .ok lefts ∧
      textsOf svc.tokenizer right = .ok rights ∧ Score.checkSides lefts.length rights.length = .ok () := by
  simp only [scoreSides, bind_eq_ok, pure, Except.pure, Except.ok.injEq, Prod.mk.injEq]
  constructor
  · rintro ⟨⟨⟩, hrunner, ⟨⟩, htask, _, hlefts, _, hrights, ⟨⟩, hsides, rfl, rfl⟩
    exact ⟨hrunner, htask, hlefts, hrights, hsides⟩
  · rintro ⟨hrunner, htask, hlefts, hrights, hsides⟩
    exact ⟨(), hrunner, (), htask, lefts, hlefts, rights, hrights, (), hsides, rfl, rfl⟩

theorem scoreRequest_eq_ok : svc.scoreRequest left right options = .ok (lefts, rights, batch) ↔
    svc.scoreSides left right = .ok (lefts, rights) ∧ svc.scoreBatch options lefts rights = .ok batch := by
  constructor
  · intro h
    obtain ⟨⟨_, _⟩, hsides, h⟩ := bind_eq_ok.mp h
    obtain ⟨_, hbatch, h⟩ := bind_eq_ok.mp h
    cases h
    exact ⟨hsides, hbatch⟩
  · rintro ⟨hsides, hbatch⟩
    exact bind_eq_ok.mpr ⟨_, hsides, bind_eq_ok.mpr ⟨_, hbatch, rfl⟩⟩

/-- A score call whose texts pass goes on to score them. -/
theorem score_from (hsides : svc.scoreSides left right = .ok (lefts, rights)) (hw : w.core = core)
    {result : Except Halt (List PairScore)} {after : Core σ}
    (hscored : ∀ w' : World σ τ, w'.core = core →
      (if svc.model.isCrossEncoder then svc.scoreByPairs ticks lefts rights options sink
        else svc.scoreByVectors ticks lefts rights options sink).Ends w' result after) :
    (svc.score ticks left right options sink).Ends w result after := by
  obtain ⟨hrunner, htask, hlefts, hrights, hpairs⟩ := scoreSides_eq_ok.mp hsides
  apply (ends_check_ok hrunner hw).bind
  intro w₁ h₁
  apply (ends_check_ok htask h₁).bind
  intro w₂ h₂
  apply (scoreTexts_ok hlefts h₂).bind
  intro w₃ h₃
  apply (scoreTexts_ok hrights h₃).bind
  intro w₄ h₄
  apply (ends_check_ok hpairs h₄).bind
  exact hscored

/-- A score call whose arguments pass comes to what its batch comes to, with its view of the updates. -/
theorem score_ends (hrequest : svc.scoreRequest left right options = .ok (lefts, rights, batch)) (hw : w.core = core) :
    (svc.score ticks left right options sink).Ends w
      (resultOf (svc.batchEnd ticks batch core).1 (svc.scoresOf lefts.length)) (svc.batchEnd ticks batch core).2 := by
  obtain ⟨hsides, hbatch⟩ := scoreRequest_eq_ok.mp hrequest
  refine score_from hsides hw fun w' hw' => ?_
  split
  case isTrue hmodel => exact scoreByPairs_ends hmodel hbatch hw'
  case isFalse hmodel => exact scoreByVectors_ends (eq_false_of_ne_true hmodel) hbatch hw'

theorem scoreByVectors_invalid (hmodel : svc.model.isCrossEncoder = false)
    (hbatch : svc.scoreBatch options lefts rights = .error err) (hw : w.core = core) :
    (svc.scoreByVectors ticks lefts rights options sink).Ends w (.error (.failed err)) core := by
  simp only [scoreBatch, hmodel, Bool.false_eq_true, if_false] at hbatch
  exact (svc.encode_invalid hbatch hw).bind_error

theorem scoreByPairs_invalid (hmodel : svc.model.isCrossEncoder = true)
    (hbatch : svc.scoreBatch options lefts rights = .error err) (hw : w.core = core) :
    (svc.scoreByPairs ticks lefts rights options sink).Ends w (.error (.failed err)) core := by
  simp only [scoreBatch, hmodel, if_true] at hbatch
  rcases bind_eq_error.mp hbatch with htruncation | ⟨_, _, hpure⟩
  · exact (ends_check_error htruncation hw).bind_error
  · cases hpure

theorem score_unchecked (h : svc.scoreSides left right = .error err) (hw : w.core = core) :
    (svc.score ticks left right options sink).Ends w (.error (.failed err)) core := by
  rcases bind_eq_error.mp h with hrunner | ⟨_, hrunner, h⟩
  · exact (ends_check_error hrunner hw).bind_error
  apply (ends_check_ok hrunner hw).bind
  intro w₁ h₁
  rcases bind_eq_error.mp h with htask | ⟨_, htask, h⟩
  · exact (ends_check_error htask h₁).bind_error
  apply (ends_check_ok htask h₁).bind
  intro w₂ h₂
  rcases bind_eq_error.mp h with hlefts | ⟨lefts, hlefts, h⟩
  · exact (scoreTexts_error hlefts h₂).bind_error
  apply (scoreTexts_ok hlefts h₂).bind
  intro w₃ h₃
  rcases bind_eq_error.mp h with hrights | ⟨rights, hrights, h⟩
  · exact (scoreTexts_error hrights h₃).bind_error
  apply (scoreTexts_ok hrights h₃).bind
  intro w₄ h₄
  rcases bind_eq_error.mp h with hpairs | ⟨_, _, hpure⟩
  · exact (ends_check_error hpairs h₄).bind_error
  · cases hpure

/-- A score call whose arguments do not pass does nothing. -/
theorem score_invalid (h : svc.scoreRequest left right options = .error err) (hw : w.core = core) :
    (svc.score ticks left right options sink).Ends w (.error (.failed err)) core := by
  rcases bind_eq_error.mp h with hsides | ⟨⟨lefts, rights⟩, hsides, h⟩
  · exact score_unchecked hsides hw
  rcases bind_eq_error.mp h with hbatch | ⟨_, _, hpure⟩
  · refine score_from hsides hw fun w' hw' => ?_
    split
    case isTrue hmodel => exact scoreByPairs_invalid hmodel hbatch hw'
    case isFalse hmodel => exact scoreByVectors_invalid (eq_false_of_ne_true hmodel) hbatch hw'
  · cases hpure

end BatchInference.Service
