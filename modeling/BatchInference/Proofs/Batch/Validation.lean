import BatchInference.Session
import BatchInference.Proofs.Batch.Ends

/-!
The calls that run one batch, told apart into what is checked and what is done. All checks of such a call are one
function of its arguments and the remembered defaults, which gives the batch or the reason why there is none; the
call then is this check, the batch, and a view of the updates.
-/

namespace BatchInference

open Run

variable {σ τ : Type}

/-- The calls that run one batch. -/
inductive BatchCall where
  | generate (prompts : PromptInput) (options : GenerateOptions)
  | encode (prompts : PromptInput) (options : EncodeOptions)
  | embed (prompts : PromptInput) (options : EncodeOptions)
  | classify (prompts : PromptInput) (options : EncodeOptions)

namespace Service

/-- The sampling parameters of a call that gives none. -/
def defaultsFrom (svc : Service σ) (remembered : Option SamplingParams) : SamplingParams :=
  remembered.getD (.ofDefaults svc.model.generationDefaults)

def rememberedAfter (svc : Service σ) (params : Option (Broadcast SamplingParams))
    (remembered : Option SamplingParams) : Option SamplingParams :=
  match params with
  | some _ => remembered
  | none => some (svc.defaultsFrom remembered)

def guidance : Option GuidedOptions → Except CallError (Option GuidedDecoding)
  | none => .ok none
  | some options => do return some (← options.resolve)

/-- The batch of a generate call, once its arguments have passed. -/
def generateBatch (svc : Service σ) (remembered : Option SamplingParams) (input : PromptInput)
    (options : GenerateOptions) : Except CallError Batch := do
  svc.requireGeneration
  let prompts ← input.normalize
  let guided ← guidance options.guided
  let params := options.params.getD (.one (svc.defaultsFrom remembered))
  let truncation ← svc.truncationOf params
  let { lora, promptAdapter, steerVector, priority, .. } := options
  return { prompts, lora, promptAdapter, steerVector, priority, guided, truncation, params := params.map .sampling }

/-- The defaults that are remembered after a generate call that is refused: they are worked out once everything has
passed but the truncation, which they may ask for. -/
def rememberedRefused (svc : Service σ) (remembered : Option SamplingParams) (input : PromptInput)
    (options : GenerateOptions) : Option SamplingParams :=
  match svc.requireGeneration, input.normalize, guidance options.guided with
  | .ok _, .ok _, .ok _ => svc.rememberedAfter options.params remembered
  | _, _, _ => remembered

def encodeBatch (svc : Service σ) (input : PromptInput) (options : EncodeOptions) : Except CallError Batch := do
  svc.requirePooling "encode"
  let prompts ← input.normalize
  let truncation ← Truncation.resolve svc.model.maxModelLen options.truncate
  let { lora, promptAdapter, steerVector, priority, .. } := options
  return { prompts, lora, promptAdapter, steerVector, priority, truncation
           params := (options.params.getD (.one {})).map .pooling }

end Service

namespace BatchCall

def call : BatchCall → Call
  | .generate prompts options => .generate prompts options
  | .encode prompts options => .encode prompts options
  | .embed prompts options => .embed prompts options
  | .classify prompts options => .classify prompts options

def input : BatchCall → PromptInput
  | .generate prompts _ => prompts
  | .encode prompts _ => prompts
  | .embed prompts _ => prompts
  | .classify prompts _ => prompts

def batch (svc : Service σ) (remembered : Option SamplingParams) : BatchCall → Except CallError Batch
  | .generate prompts options => svc.generateBatch remembered prompts options
  | .encode prompts options => svc.encodeBatch prompts options
  | .embed prompts options => do
    require (svc.model.task = .embed) (.unsupported .embedding)
    svc.encodeBatch prompts options
  | .classify prompts options => do
    require (svc.model.task = .classify) (.unsupported .classification)
    svc.encodeBatch prompts options

/-- All checks of the call: the requests it stands for, or the first thing wrong with it. -/
def validate (svc : Service σ) (remembered : Option SamplingParams) (c : BatchCall) :
    Except CallError (List PendingRequest) := do
  (← c.batch svc remembered).prepare svc.model

def answer : BatchCall → List Update → Except CallError Answer
  | .generate .., us => .generations <$> us.mapM (·.toGeneration)
  | .encode .., us => .pooled <$> us.mapM (·.toPooled)
  | .embed .., us => (fun ps => .embeddings (ps.map (·.toEmbedding))) <$> us.mapM (·.toPooled)
  | .classify .., us => (fun ps => .classifications (ps.map (·.toClassification))) <$> us.mapM (·.toPooled)

end BatchCall

namespace Service

variable {w : World σ τ} {s : σ} {c : IdCounter} {d : Option SamplingParams} {after : Core σ}

theorem promptsOf_ok {input : PromptInput} {prompts : List Prompt} (h : input.normalize = .ok prompts)
    (hw : w.core = after) : (promptsOf input).Ends w (.ok prompts) after :=
  (ends_logWhen _ _ _ hw).bind fun _ h₁ => ends_check_ok h h₁

theorem promptsOf_error {input : PromptInput} {err : CallError} (h : input.normalize = .error err)
    (hw : w.core = after) : (promptsOf input).Ends w (.error (.failed err)) after :=
  (ends_logWhen _ _ _ hw).bind fun _ h₁ => ends_check_error h h₁

theorem guidanceOf_ok {options : Option GuidedOptions} {guided : Option GuidedDecoding}
    (h : guidance options = .ok guided) (hw : w.core = after) : (guidanceOf options).Ends w (.ok guided) after := by
  cases options with
  | none =>
    cases h
    exact ends_pure none hw
  | some o =>
    obtain ⟨g, hg, hguided⟩ := bind_eq_ok.mp h
    cases hguided
    apply (ends_log _ _ hw).bind
    intro w₁ h₁
    exact (ends_check_ok hg h₁).bind fun _ h₂ => ends_pure _ h₂

theorem guidanceOf_error {options : Option GuidedOptions} {err : CallError}
    (h : guidance options = .error err) (hw : w.core = after) :
    (guidanceOf options).Ends w (.error (.failed err)) after := by
  cases options with
  | none => cases h
  | some o =>
    rcases bind_eq_error.mp h with hresolve | ⟨_, _, hpure⟩
    · apply (ends_log _ _ hw).bind
      intro w₁ h₁
      exact (ends_check_error hresolve h₁).bind_error
    · cases hpure

theorem defaultParams_ends (svc : Service σ) (hw : w.core = ⟨s, c, d⟩) :
    svc.defaultParams.Ends w (.ok (svc.defaultsFrom d)) ⟨s, c, some (svc.defaultsFrom d)⟩ := by
  have hd : w.defaults = d := congrArg Core.defaults hw
  apply (ends_get hw).bind
  intro w₁ h₁
  rw [hd]
  cases d with
  | some p => exact ends_pure p h₁
  | none =>
    apply (ends_logWhen _ _ _ h₁).bind
    intro w₂ h₂
    exact (ends_remember _ h₂).bind fun _ h₃ => ends_pure _ h₃

theorem paramsOf_ends (svc : Service σ) (params : Option (Broadcast SamplingParams)) (hw : w.core = ⟨s, c, d⟩) :
    (svc.paramsOf params).Ends w (.ok (params.getD (.one (svc.defaultsFrom d))))
      ⟨s, c, svc.rememberedAfter params d⟩ := by
  cases params with
  | some ps => exact ends_pure ps hw
  | none => exact (svc.defaultParams_ends hw).bind fun _ h₁ => ends_pure _ h₁

variable {ticks : Nat} {sink : Option (ProgressSink τ)} {batch : Batch} {err : CallError}
  {result : Except Halt (List Update)}

theorem generate_valid (svc : Service σ) {input : PromptInput} {options : GenerateOptions}
    (h : svc.generateBatch d input options = .ok batch) (hw : w.core = ⟨s, c, d⟩)
    (hbatch : ∀ w' : World σ τ, w'.core = ⟨s, c, svc.rememberedAfter options.params d⟩ →
      (svc.runBatch ticks batch (displayOf sink)).Ends w' result after) :
    (svc.generate ticks input options sink).Ends w (resultOf result fun us => us.mapM (·.toGeneration)) after := by
  obtain ⟨_, hrunner, h⟩ := bind_eq_ok.mp h
  obtain ⟨prompts, hprompts, h⟩ := bind_eq_ok.mp h
  obtain ⟨guided, hguided, h⟩ := bind_eq_ok.mp h
  obtain ⟨truncation, htruncation, h⟩ := bind_eq_ok.mp h
  cases h
  apply (ends_check_ok hrunner hw).bind
  intro w₁ h₁
  apply (promptsOf_ok hprompts h₁).bind
  intro w₂ h₂
  apply (guidanceOf_ok hguided h₂).bind
  intro w₃ h₃
  apply (svc.paramsOf_ends options.params h₃).bind
  intro w₄ h₄
  apply (ends_check_ok htruncation h₄).bind
  intro w₅ h₅
  exact (hbatch w₅ h₅).checked _

theorem generate_invalid (svc : Service σ) {input : PromptInput} {options : GenerateOptions}
    (h : svc.generateBatch d input options = .error err) (hw : w.core = ⟨s, c, d⟩) :
    (svc.generate ticks input options sink).Ends w (.error (.failed err))
      ⟨s, c, svc.rememberedRefused d input options⟩ := by
  unfold rememberedRefused
  rcases bind_eq_error.mp h with hrunner | ⟨_, hrunner, h⟩
  · simp only [hrunner]
    exact (ends_check_error hrunner hw).bind_error
  apply (ends_check_ok hrunner hw).bind
  intro w₁ h₁
  rcases bind_eq_error.mp h with hprompts | ⟨prompts, hprompts, h⟩
  · simp only [hrunner, hprompts]
    exact (promptsOf_error hprompts h₁).bind_error
  apply (promptsOf_ok hprompts h₁).bind
  intro w₂ h₂
  rcases bind_eq_error.mp h with hguided | ⟨guided, hguided, h⟩
  · simp only [hrunner, hprompts, hguided]
    exact (guidanceOf_error hguided h₂).bind_error
  apply (guidanceOf_ok hguided h₂).bind
  intro w₃ h₃
  apply (svc.paramsOf_ends options.params h₃).bind
  intro w₄ h₄
  rcases bind_eq_error.mp h with htruncation | ⟨truncation, _, h⟩
  · simp only [hrunner, hprompts, hguided]
    exact (ends_check_error htruncation h₄).bind_error
  · cases h

theorem encode_valid (svc : Service σ) {input : PromptInput} {options : EncodeOptions}
    (h : svc.encodeBatch input options = .ok batch) (hw : w.core = ⟨s, c, d⟩)
    (hbatch : ∀ w' : World σ τ, w'.core = ⟨s, c, d⟩ →
      (svc.runBatch ticks batch (displayOf sink)).Ends w' result after) :
    (svc.encode ticks input options sink).Ends w (resultOf result fun us => us.mapM (·.toPooled)) after := by
  obtain ⟨_, hrunner, h⟩ := bind_eq_ok.mp h
  obtain ⟨prompts, hprompts, h⟩ := bind_eq_ok.mp h
  obtain ⟨truncation, htruncation, h⟩ := bind_eq_ok.mp h
  cases h
  apply (ends_check_ok hrunner hw).bind
  intro w₁ h₁
  apply (promptsOf_ok hprompts h₁).bind
  intro w₂ h₂
  apply (ends_check_ok htruncation h₂).bind
  intro w₃ h₃
  exact (hbatch w₃ h₃).checked _

theorem encode_invalid (svc : Service σ) {input : PromptInput} {options : EncodeOptions}
    (h : svc.encodeBatch input options = .error err) (hw : w.core = ⟨s, c, d⟩) :
    (svc.encode ticks input options sink).Ends w (.error (.failed err)) ⟨s, c, d⟩ := by
  rcases bind_eq_error.mp h with hrunner | ⟨_, hrunner, h⟩
  · exact (ends_check_error hrunner hw).bind_error
  apply (ends_check_ok hrunner hw).bind
  intro w₁ h₁
  rcases bind_eq_error.mp h with hprompts | ⟨prompts, hprompts, h⟩
  · exact (promptsOf_error hprompts h₁).bind_error
  apply (promptsOf_ok hprompts h₁).bind
  intro w₂ h₂
  rcases bind_eq_error.mp h with htruncation | ⟨truncation, _, h⟩
  · exact (ends_check_error htruncation h₂).bind_error
  · cases h

end Service

namespace BatchCall

variable {svc : Service σ} {w : World σ τ} {s : σ} {n : IdCounter} {d : Option SamplingParams} {after : Core σ}
  {ticks : Nat} {sink : Option (ProgressSink τ)} {batch : Batch} {err : CallError} {c : BatchCall}
  {result : Except Halt (List Update)}

private theorem map_resultOf {f : List Update → Except CallError α} {g : α → β} :
    (resultOf result f).map g = resultOf result fun us => g <$> f us := by
  cases result with
  | error h => rfl
  | ok us =>
    simp only [resultOf]
    cases f us with
    | ok b => rfl
    | error e => rfl

def rememberedAfter (svc : Service σ) (d : Option SamplingParams) : BatchCall → Option SamplingParams
  | .generate _ options => svc.rememberedAfter options.params d
  | _ => d

/-- The defaults that are remembered after a call whose arguments do not pass. -/
def rememberedRefused (svc : Service σ) (d : Option SamplingParams) : BatchCall → Option SamplingParams
  | .generate input options => svc.rememberedRefused d input options
  | _ => d

variable (ticks) (sink)

theorem call_valid (h : c.batch svc d = .ok batch) (hw : w.core = ⟨s, n, d⟩)
    (hbatch : ∀ w' : World σ τ, w'.core = ⟨s, n, c.rememberedAfter svc d⟩ →
      (svc.runBatch ticks batch (Service.displayOf sink)).Ends w' result after) :
    (svc.call ticks sink c.call).Ends w (resultOf result c.answer) after := by
  cases c with
  | generate input options =>
    have hends := (svc.generate_valid h hw hbatch).view Answer.generations
    rwa [map_resultOf] at hends
  | encode input options =>
    have hends := (svc.encode_valid h hw hbatch).view Answer.pooled
    rwa [map_resultOf] at hends
  | embed input options =>
    obtain ⟨_, htask, h⟩ := bind_eq_ok.mp h
    have hends : (svc.embed ticks input options sink).Ends w _ after :=
      (ends_check_ok htask hw).bind fun w' hw' =>
        (svc.encode_valid h hw' hbatch).view fun ps => ps.map (·.toEmbedding)
    have hview := hends.view Answer.embeddings
    simp only [map_resultOf, Functor.map_map] at hview
    exact hview
  | classify input options =>
    obtain ⟨_, htask, h⟩ := bind_eq_ok.mp h
    have hends : (svc.classify ticks input options sink).Ends w _ after :=
      (ends_check_ok htask hw).bind fun w' hw' =>
        (svc.encode_valid h hw' hbatch).view fun ps => ps.map (·.toClassification)
    have hview := hends.view Answer.classifications
    simp only [map_resultOf, Functor.map_map] at hview
    exact hview

/-- A call whose arguments pass comes to what its batch comes to, with its view of the updates. -/
theorem call_ends (h : c.batch svc d = .ok batch) (hw : w.core = ⟨s, n, d⟩) {core : Core σ}
    (hcore : core = ⟨s, n, c.rememberedAfter svc d⟩) :
    (svc.call ticks sink c.call).Ends w (resultOf (svc.batchEnd ticks batch core).1 c.answer)
      (svc.batchEnd ticks batch core).2 :=
  call_valid ticks sink h hw fun _ hw' => svc.runBatch_ends ticks batch _ (hw'.trans hcore.symm)

/-- A call whose arguments do not pass leaves the engine and the counter alone. -/
theorem call_invalid (h : c.batch svc d = .error err) (hw : w.core = ⟨s, n, d⟩) :
    (svc.call ticks sink c.call).Ends w (.error (.failed err)) ⟨s, n, c.rememberedRefused svc d⟩ := by
  cases c with
  | generate input options =>
    have hends : (svc.generate ticks input options sink).Ends w _ _ := svc.generate_invalid h hw
    exact hends.bind_error
  | encode input options => exact (svc.encode_invalid h hw).bind_error
  | embed input options | classify input options =>
    refine Ends.bind_error ?_
    rcases bind_eq_error.mp h with htask | ⟨_, htask, h⟩
    · exact (ends_check_error htask hw).bind_error
    · exact (ends_check_ok htask hw).bind fun _ hw' => (svc.encode_invalid h hw').bind_error

end BatchCall

end BatchInference
