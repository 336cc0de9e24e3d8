import BatchInference.Proofs.Score.Documents
import BatchInference.Proofs.Session.Guidance

/-!
How calls cut their prompts. Every call that can be asked to keep only the last tokens of its prompts takes the number
in the same way: a negative one means the whole context window, any other is kept if the window holds it, and one that
the window does not hold is found before the engine is asked for anything. What differs is who cuts: the engine is told
the limit with each request, except by a score call at a model that reads pairs, which cuts the pairs before it submits
them.
-/

namespace BatchInference

variable {σ τ : Type}

namespace Truncation

/-- What a request to keep some of the last tokens comes to. A number that the window does not hold comes to nothing. -/
inductive ComesTo (window : Nat) : Option Int → Option Truncation → Prop
  | absent : ComesTo window none none
  | whole {k : Int} : k < 0 → ComesTo window (some k) (some ⟨true, window⟩)
  | part {n : Nat} : n ≤ window → ComesTo window (some n) (some ⟨true, n⟩)

variable {window : Nat} {requested : Option Int} {truncation : Option Truncation} {k : Int}

theorem resolve_of_comesTo (h : ComesTo window requested truncation) : resolve window requested = .ok truncation := by
  cases h with
  | absent => rfl
  | whole hnegative => simp [resolve, hnegative]
  | @part n hle =>
    have hlength : ¬(n : Int) < 0 ∧ ¬window < n := by omega
    simp [resolve, hlength]

theorem exists_comesTo (h : ∀ k, requested = some k → k ≤ window) : ∃ truncation, ComesTo window requested truncation := by
  cases requested with
  | none => exact ⟨_, .absent⟩
  | some k =>
    cases k with
    | ofNat n => exact ⟨_, .part (Int.ofNat_le.mp (h _ rfl))⟩
    | negSucc n => exact ⟨_, .whole (Int.negSucc_lt_zero n)⟩

theorem resolve_of_too_long (h : window < k) : resolve window (some k) = .error (.invalidInput (.truncation k window)) := by
  have hlength : ¬k < 0 ∧ window < k.toNat := by omega
  simp [resolve, hlength]

end Truncation

/-! No other check than that of the truncation is about it. -/

section Causes

variable {e : CallError} {model : ModelConfig}

theorem SamplingParams.verify_ne_truncation {p : SamplingParams} (h : p.verify = .error e) (k : Int) (n : Nat) :
    e ≠ .invalidInput (.truncation k n) := by
  rw [verify_eq] at h
  rcases bind_eq_error.mp h with hsetting | ⟨_, _, hmodes⟩
  · obtain ⟨_, s, _, _, _, _, rfl⟩ := forM_require_eq_error.mp hsetting
    cases s <;> exact nofun
  · obtain ⟨_, rfl⟩ := require_eq_error.mp hmodes
    exact nofun

theorem PoolingParams.verify_ne_truncation {p : PoolingParams} (h : p.verify model = .error e) (k : Int) (n : Nat) :
    e ≠ .invalidInput (.truncation k n) := by
  unfold verify at h
  split at h
  · cases h
  · rcases bind_eq_error.mp h with hmodel | ⟨_, _, hdimensions⟩
    · obtain ⟨_, rfl⟩ := require_eq_error.mp hmodel
      exact nofun
    · obtain ⟨_, rfl⟩ := require_eq_error.mp hdimensions
      exact nofun

/-- A batch is refused for something else than its truncation. -/
theorem Batch.prepare_ne_truncation {b : Batch} (h : b.prepare model = .error e) (k : Int) (n : Nat) :
    e ≠ .invalidInput (.truncation k n) := by
  cases prepare_eq_error.mp h with
  | params | lora | priority => exact nofun
  | @finalization _ p _ _ _ hfault _ =>
    cases hfault with
    | guidedTwice => exact nofun
    | outOfRange _ hfails =>
      cases p with
      | sampling p => exact SamplingParams.verify_ne_truncation hfails k n
      | pooling p => exact PoolingParams.verify_ne_truncation hfails k n

end Causes

namespace Service

variable {svc : Service σ} {w : World σ τ} {core : Core σ} {d : Option SamplingParams} {batch : Batch}
  {input left right : PromptInput} {prompts : List Prompt} {requested : Option Int} {ticks : Nat}
  {truncation : Option Truncation} {sink : Option (ProgressSink τ)} {call : Call}

/-- How many tokens sampling parameters ask to keep: parameters that are given prompt by prompt ask for nothing. -/
def tokensKept : Broadcast SamplingParams → Option Int
  | .one p => p.truncatePromptTokens
  | .each _ => none

/-- A call that passes all checks up to its truncation asks to keep so many tokens. -/
inductive AsksToKeep (svc : Service σ) (remembered : Option SamplingParams) : Call → Option Int → Prop
  | generate {input : PromptInput} {options : GenerateOptions} {prompts : List Prompt}
      {guided : Option GuidedDecoding} :
      svc.requireGeneration = .ok () → input.normalize = .ok prompts → guidance options.guided = .ok guided →
      AsksToKeep svc remembered (.generate input options) (tokensKept (svc.callParams remembered options))
  | encode {input : PromptInput} {options : EncodeOptions} {prompts : List Prompt} :
      svc.requirePooling "encode" = .ok () → input.normalize = .ok prompts →
      AsksToKeep svc remembered (.encode input options) options.truncate
  | embed {input : PromptInput} {options : EncodeOptions} {prompts : List Prompt} :
      svc.model.task = .embed → svc.requirePooling "encode" = .ok () → input.normalize = .ok prompts →
      AsksToKeep svc remembered (.embed input options) options.truncate
  | classify {input : PromptInput} {options : EncodeOptions} {prompts : List Prompt} :
      svc.model.task = .classify → svc.requirePooling "encode" = .ok () → input.normalize = .ok prompts →
      AsksToKeep svc remembered (.classify input options) options.truncate
  | score {left right : PromptInput} {options : ScoreOptions} {lefts rights : List String} :
      svc.scoreSides left right = .ok (lefts, rights) →
      AsksToKeep svc remembered (.score left right options) options.truncate

/-- The requests of a call are cut like this: each carries the truncation, but a model that reads pairs gets every pair
cut already and is told nothing. -/
def CutTo (svc : Service σ) (truncation : Option Truncation) (requests : List Request) : Call → Prop
  | .score left right _ =>
    if svc.model.isCrossEncoder then
      ∃ lefts rights, svc.scoreSides left right = .ok (lefts, rights) ∧
        ∀ (i : Nat) (r : Request), requests[i]? = some r → svc.ReadsDocument truncation lefts rights i r
    else ∀ r ∈ requests, r.truncation = truncation
  | _ => ∀ r ∈ requests, r.truncation = truncation

theorem truncationOf_eq (svc : Service σ) (params : Broadcast SamplingParams) :
    svc.truncationOf params = Truncation.resolve svc.model.maxModelLen (tokensKept params) := by
  cases params <;> rfl

/-- The batch of a generate call, as far as it does not depend on the truncation. -/
theorem exists_generateBatch_untruncated {options : GenerateOptions} {guided : Option GuidedDecoding}
    (hrunner : svc.requireGeneration = .ok ()) (hprompts : input.normalize = .ok prompts)
    (hguided : guidance options.guided = .ok guided) : ∃ b : Batch, svc.generateBatch d input options =
      (fun truncation => { b with truncation }) <$> svc.truncationOf (svc.callParams d options) := by
  refine ⟨{ prompts, guided, lora := options.lora, promptAdapter := options.promptAdapter,
            steerVector := options.steerVector, priority := options.priority,
            params := (svc.callParams d options).map .sampling }, ?_⟩
  unfold generateBatch
  rw [hrunner, hprompts, hguided]
  change (svc.truncationOf (svc.callParams d options) >>= fun truncation => _) = _
  cases svc.truncationOf (svc.callParams d options) <;> rfl

theorem exists_encodeBatch_untruncated (options : EncodeOptions) (hrunner : svc.requirePooling "encode" = .ok ())
    (hprompts : input.normalize = .ok prompts) : ∃ b : Batch, svc.encodeBatch input options =
      (fun truncation => { b with truncation }) <$> Truncation.resolve svc.model.maxModelLen options.truncate := by
  refine ⟨{ prompts, lora := options.lora, promptAdapter := options.promptAdapter, steerVector := options.steerVector,
            priority := options.priority, params := (options.params.getD (.one {})).map .pooling }, ?_⟩
  unfold encodeBatch
  rw [hrunner, hprompts]
  change (Truncation.resolve svc.model.maxModelLen options.truncate >>= fun truncation => _) = _
  cases Truncation.resolve svc.model.maxModelLen options.truncate <;> rfl

/-- A call that is for one task only has the batch of an encode call at a model with this task. -/
theorem exists_taskBatch_untruncated {task : Task} (options : EncodeOptions) (cause : Unsupported)
    (htask : svc.model.task = task) (hrunner : svc.requirePooling "encode" = .ok ())
    (hprompts : input.normalize = .ok prompts) :
    ∃ b : Batch, (require (svc.model.task = task) (.unsupported cause) >>= fun _ => svc.encodeBatch input options) =
      (fun truncation => { b with truncation }) <$> Truncation.resolve svc.model.maxModelLen options.truncate := by
  have hrequire : require (svc.model.task = task) (.unsupported cause) = .ok () :=
    require_eq_ok.mpr (decide_eq_true htask)
  rw [hrequire]
  exact exists_encodeBatch_untruncated options hrunner hprompts

/-- Once a call has come to its truncation, nothing but the truncation stands between it and its batch. -/
theorem AsksToKeep.exists_batch {c : BatchCall} (h : svc.AsksToKeep d c.call requested) :
    ∃ b : Batch, c.batch svc d =
      (fun truncation => { b with truncation }) <$> Truncation.resolve svc.model.maxModelLen requested := by
  cases c with
  | generate input options =>
    cases h with
    | generate hrunner hprompts hguided =>
      rw [← truncationOf_eq]
      exact exists_generateBatch_untruncated hrunner hprompts hguided
  | encode input options =>
    cases h with
    | encode hrunner hprompts => exact exists_encodeBatch_untruncated options hrunner hprompts
  | embed input options =>
    cases h with
    | embed htask hrunner hprompts => exact exists_taskBatch_untruncated options _ htask hrunner hprompts
  | classify input options =>
    cases h with
    | classify htask hrunner hprompts => exact exists_taskBatch_untruncated options _ htask hrunner hprompts

/-- What a batch offers carries its truncation. -/
theorem truncation_of_offered {r : Request} (hr : r ∈ EngineUse.requests (svc.batchUses ticks batch core)) :
    r.truncation = batch.truncation := by
  cases hprepare : batch.prepare svc.model with
  | error e =>
    rw [batchUses_of_prepare_error hprepare] at hr
    cases hr
  | ok pending => exact Batch.truncation_of_prepare hprepare _ (pending_of_offered hprepare hr)

/-- The calls that can ask for it are those that run one batch and the score calls. -/
theorem AsksToKeep.route (h : svc.AsksToKeep d call requested) :
    (∃ c : BatchCall, c.call = call) ∨
      ∃ left right options lefts rights, Call.score left right options = call ∧ options.truncate = requested ∧
        svc.scoreSides left right = .ok (lefts, rights) := by
  cases h with
  | @generate input options => exact .inl ⟨.generate input options, rfl⟩
  | @encode input options => exact .inl ⟨.encode input options, rfl⟩
  | @embed input options => exact .inl ⟨.embed input options, rfl⟩
  | @classify input options => exact .inl ⟨.classify input options, rfl⟩
  | @score left right options lefts rights hsides => exact .inr ⟨left, right, options, lefts, rights, rfl, rfl, hsides⟩

theorem AsksToKeep.refused {k : Int} (h : svc.AsksToKeep w.defaults call (some k)) (htoolong : svc.model.maxModelLen < k) :
    ∃ d, svc.CallAsks ticks sink call w []
      (.error (.failed (.invalidInput (.truncation k svc.model.maxModelLen)))) ⟨w.engine, w.counter, d⟩ := by
  rcases h.route with ⟨c, rfl⟩ | ⟨left, right, options, lefts, rights, rfl, hasked, hsides⟩
  · obtain ⟨b, hbatch⟩ := h.exists_batch
    rw [Truncation.resolve_of_too_long htoolong] at hbatch
    exact ⟨_, batchCall_asks_nothing hbatch⟩
  · have hrunner := runner_of_requirePooling (scoreSides_eq_ok.mp hsides).1
    have hresolve := Truncation.resolve_of_too_long htoolong
    rw [← hasked] at hresolve
    have hbatch := scoreBatch_error hrunner hresolve lefts rights
    exact ⟨_, score_asks_nothing (bind_eq_error.mpr (.inr ⟨_, hsides, bind_eq_error.mpr (.inl hbatch)⟩))⟩

/-- A call that runs one batch is not refused for a number of tokens that the window holds, and its requests carry what
the number comes to. -/
theorem batchCall_cut {c : BatchCall} (h : svc.AsksToKeep w.defaults c.call requested)
    (hcomes : Truncation.ComesTo svc.model.maxModelLen requested truncation) :
    ∃ asked result after, svc.CallAsks ticks sink c.call w asked result after ∧
      (∀ k n, result ≠ .error (.failed (.invalidInput (.truncation k n)))) ∧
      svc.CutTo truncation (EngineUse.requests asked) c.call := by
  obtain ⟨b, hbatch⟩ := h.exists_batch
  rw [Truncation.resolve_of_comesTo hcomes] at hbatch
  refine ⟨_, _, _, batchCall_asks_batch hbatch rfl, ?_, ?_⟩
  · intro k n hrefused
    rcases resultOf_eq_failed.mp hrefused with hend | ⟨us, _, hanswer⟩
    · exact Batch.prepare_ne_truncation (prepare_of_refused (Prod.ext hend rfl) rfl) k n rfl
    · cases BatchCall.answer_not_refusal hanswer
  · cases c <;> exact fun r hr => truncation_of_offered hr

/-- So is a score call, whose requests carry it or have been cut to it. -/
theorem score_cut {options : ScoreOptions} {lefts rights : List String}
    (hsides : svc.scoreSides left right = .ok (lefts, rights))
    (hcomes : Truncation.ComesTo svc.model.maxModelLen options.truncate truncation) :
    ∃ asked result after, svc.CallAsks ticks sink (.score left right options) w asked result after ∧
      (∀ k n, result ≠ .error (.failed (.invalidInput (.truncation k n)))) ∧
      svc.CutTo truncation (EngineUse.requests asked) (.score left right options) := by
  obtain ⟨hpooling, -, -, -, hchecked⟩ := scoreSides_eq_ok.mp hsides
  obtain ⟨hlefts, -, hlengths⟩ := Score.checkSides_eq_ok.mp hchecked
  obtain ⟨batch, hbatch, hprepare⟩ := exists_scoreBatch (runner_of_requirePooling hpooling)
    (Truncation.resolve_of_comesTo hcomes) lefts rights
  refine ⟨_, _, _, score_asks_batch (scoreRequest_eq_ok.mpr ⟨hsides, hbatch⟩), ?_, ?_⟩
  · intro k n hrefused
    rcases resultOf_eq_failed.mp (map_eq_error.mp hrefused) with hend | ⟨us, _, hscores⟩
    · have hfailed := prepare_of_refused (Prod.ext hend rfl) rfl
      rw [hprepare] at hfailed
      cases hfailed
    · obtain ⟨-, _, _, -, -, -, hsizes⟩ := scoresOf_refused hscores rfl
      cases hsizes
  · simp only [CutTo]
    split
    case isTrue hmodel =>
      exact ⟨lefts, rights, hsides,
        fun i r hr => readsDocument_of_number hmodel hlefts hlengths (offered_in_place hprepare hr)⟩
    case isFalse hmodel =>
      intro r hr
      obtain ⟨prompt, -, hmade⟩ := List.mem_map.mp (pending_of_offered hprepare hr)
      rw [scorePending_of_texts hmodel] at hmade
      exact (congrArg PendingRequest.truncation hmade).symm

/-- Whichever call asks for it, the number of last tokens to keep is understood in the same way, whatever the context
window is. A number that the window does not hold has the call refused before an id is drawn or the engine is asked for
anything. For any other number the call is not refused, and its requests are cut to what the number comes to: all of the
window for a negative number, and otherwise the number itself. A generate call whose parameters are given prompt by
prompt asks for nothing and has nothing cut. -/
theorem truncation_resolved_alike (h : svc.AsksToKeep w.defaults call requested) (ticks : Nat)
    (sink : Option (ProgressSink τ)) :
    (∀ k, requested = some k → svc.model.maxModelLen < k → ∃ d, svc.CallAsks ticks sink call w []
      (.error (.failed (.invalidInput (.truncation k svc.model.maxModelLen)))) ⟨w.engine, w.counter, d⟩) ∧
    ((∀ k, requested = some k → k ≤ svc.model.maxModelLen) →
      ∃ truncation, Truncation.ComesTo svc.model.maxModelLen requested truncation ∧
        ∃ asked result after, svc.CallAsks ticks sink call w asked result after ∧
          (∀ k n, result ≠ .error (.failed (.invalidInput (.truncation k n)))) ∧
          svc.CutTo truncation (EngineUse.requests asked) call) := by
  constructor
  · rintro k rfl htoolong
    exact h.refused htoolong
  · intro hfits
    obtain ⟨truncation, hcomes⟩ := Truncation.exists_comesTo hfits
    refine ⟨truncation, hcomes, ?_⟩
    rcases h.route with ⟨c, rfl⟩ | ⟨left, right, options, lefts, rights, rfl, rfl, hsides⟩
    · exact batchCall_cut h hcomes
    · exact score_cut hsides hcomes

/-- A service that reads pairs within a context window of two tokens. -/
def narrowService : Service Scripted.State where
  engine := (
    { model := { runner := .pooling, supportedRunners := [.pooling], task := .classify, numLabels := some 1,
                 isCrossEncoder := true, maxModelLen := 2 }
      answers := { offsets := [] }
      alphabet := {} } : Scripted.Plan).engine
  tokenizer := Scripted.Alphabet.tokenizer {}
  logger := none

/-- More tokens than any window holds, asked for with the first of two prompts. -/
def keepingForFirst : GenerateOptions :=
  { params := some (.each [{ truncatePromptTokens := some 9223372036854775807 }, {}]) }

/-- Three tokens are more than the window holds. A negative number keeps as many as it holds: the engine is told so
with a text, and gets a pair cut to two tokens. What is asked for with one of two prompts is not looked at. -/
theorem narrow_window_kept :
    (∃ d, narrowService.CallAsks 1 (none : Option (ProgressSink Unit)) (.encode twoTexts { truncate := some 3 })
      untouchedWorld [] (.error (.failed (.invalidInput (.truncation 3 2)))) ⟨{}, ⟨0⟩, d⟩) ∧
    (∃ asked result after r, narrowService.CallAsks 1 (none : Option (ProgressSink Unit))
      (.encode (.single (.ofText "abc")) { truncate := some (-7) }) untouchedWorld asked result after ∧
      EngineUse.requests asked = [r] ∧ r.truncation = some ⟨true, 2⟩) ∧
    (∃ asked result after r, narrowService.CallAsks 1 (none : Option (ProgressSink Unit))
      (.score (.single (.ofText "a")) (.single (.ofText "b")) { truncate := some (-7) }) untouchedWorld asked result
      after ∧
      EngineUse.requests asked = [r] ∧ r.prompt = .tokens [97, 1] (some [0, 0]) {} ∧ r.truncation = none) ∧
    ∃ asked result after first second, takingService.CallAsks 1 (none : Option (ProgressSink Unit))
      (.generate twoTexts keepingForFirst) untouchedWorld asked result after ∧
      EngineUse.requests asked = [first, second] ∧ first.truncation = none := by
  refine ⟨?_, ?_, ?_, ?_⟩
  · have hasks : narrowService.AsksToKeep none (.encode twoTexts { truncate := some 3 }) (some 3) := .encode rfl rfl
    exact (truncation_resolved_alike (w := untouchedWorld) hasks 1 none).1 3 rfl (by decide)
  · have hasks : narrowService.AsksToKeep none (.encode (.single (.ofText "abc")) { truncate := some (-7) })
        (some (-7)) := .encode rfl rfl
    obtain ⟨truncation, hcomes, asked, result, after, hcall, -, hcut⟩ :=
      (truncation_resolved_alike (w := untouchedWorld) hasks 1 none).2 (by rintro _ ⟨⟩; decide)
    obtain rfl : some ⟨true, 2⟩ = truncation := Except.ok.inj (Truncation.resolve_of_comesTo hcomes)
    have hcomputed : narrowService.CallAsks 1 (none : Option (ProgressSink Unit)) _ untouchedWorld _ _ _ :=
      batchCall_asks_batch (c := .encode (.single (.ofText "abc")) { truncate := some (-7) }) rfl rfl
    obtain ⟨-, -, rfl⟩ := hcall.unique (hcomputed.recorded [])
    exact ⟨_, result, after, _, hcall, rfl, hcut _ (List.mem_singleton_self _)⟩
  · have hasks : narrowService.AsksToKeep none
        (.score (.single (.ofText "a")) (.single (.ofText "b")) { truncate := some (-7) }) (some (-7)) := .score rfl
    obtain ⟨truncation, hcomes, asked, result, after, hcall, -, hcut⟩ :=
      (truncation_resolved_alike (w := untouchedWorld) hasks 1 none).2 (by rintro _ ⟨⟩; decide)
    obtain rfl : some ⟨true, 2⟩ = truncation := Except.ok.inj (Truncation.resolve_of_comesTo hcomes)
    have hrequest : narrowService.scoreRequest (.single (.ofText "a")) (.single (.ofText "b"))
        { truncate := some (-7) } = .ok (["a"], ["b"], _) := rfl
    have hcomputed : narrowService.CallAsks 1 (none : Option (ProgressSink Unit)) _ untouchedWorld _ _ _ :=
      score_asks_batch hrequest
    obtain ⟨-, -, rfl⟩ := hcall.unique (hcomputed.recorded [])
    obtain ⟨lefts, rights, hsides, hreads⟩ := hcut
    cases hsides
    obtain ⟨⟨query, document, ids, typeIds, hquery, hdocument, hencoded, hprompt⟩, -, hwhole⟩ :=
      hreads 0 _ rfl
    cases hquery
    cases hdocument
    cases hencoded
    exact ⟨_, result, after, _, hcall, rfl, hprompt, hwhole⟩
  · have hasks : takingService.AsksToKeep none (.generate twoTexts keepingForFirst) none := .generate rfl rfl rfl
    obtain ⟨truncation, hcomes, asked, result, after, hcall, -, hcut⟩ :=
      (truncation_resolved_alike (w := untouchedWorld) hasks 1 none).2 nofun
    cases hcomes
    have hcomputed : takingService.CallAsks 1 (none : Option (ProgressSink Unit)) _ untouchedWorld _ _ _ :=
      batchCall_asks_batch (c := .generate twoTexts keepingForFirst) rfl rfl
    obtain ⟨-, -, rfl⟩ := hcall.unique (hcomputed.recorded [])
    exact ⟨_, result, after, _, _, hcall, rfl, hcut _ (.head _)⟩

end Service

end BatchInference
