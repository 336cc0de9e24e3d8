import BatchInference.Proofs.Batch.Prepare
import BatchInference.Proofs.Batch.Validation

/-!
Ways to say the same thing. A value for a whole batch can be given once or for each prompt, a priority of zero or
none at all, and a list of prompts in several shapes. A batch is checked to the same requests, or to the same error,
whichever of these ways its caller takes, and so is a generate call.
-/

namespace BatchInference

variable {α β : Type}

/-- A check of one item, repeated for as many of it as there are, at least one. -/
theorem mapM_replicate {n : Nat} (h : 0 < n) (a : α) (f : α → Except CallError β) :
    (List.replicate n a).mapM f = List.replicate n <$> f a := by
  obtain ⟨n, rfl⟩ : ∃ m, n = m + 1 := ⟨n - 1, by omega⟩
  cases hf : f a with
  | error e => simp [List.replicate_succ, List.mapM_cons, hf, bind, Except.bind, Functor.map, Except.map]
  | ok b =>
    apply mapM_eq_ok.mpr
    simp [List.forall₂_iff_get, hf]

/-- The ways to give a value to each of so many prompts. -/
inductive Broadcast.Gives (n : Nat) (a : α) : Broadcast α → Prop
  | one : Gives n a (.one a)
  | each (h : 0 < n) : Gives n a (.each (List.replicate n a))

namespace Broadcast.Gives

variable {n : Nat} {a : α} {b : Broadcast α}

theorem checkLength (h : b.Gives n a) (argument : String) : b.checkLength argument n = .ok () := by
  cases h <;> simp [Broadcast.checkLength]

theorem resolve (h : b.Gives n a) (argument : String) : b.resolve argument n = .ok (List.replicate n a) := by
  cases h <;> simp [Broadcast.resolve]

theorem map (h : b.Gives n a) (f : α → β) : (b.map f).Gives n (f a) := by
  cases h with
  | one => exact .one
  | each hn =>
    rw [Broadcast.map, List.map_replicate]
    exact .each hn

/-- A conversion fails as it does for the value, or gives what becomes of the value. -/
theorem traverse (h : b.Gives n a) (f : α → Except CallError β) (argument : String) :
    (b.traverse f >>= fun converted => converted.resolve argument n) = List.replicate n <$> f a := by
  cases h with
  | one => cases hf : f a <;> simp [Broadcast.traverse, Broadcast.resolve, hf, bind, Except.bind, Functor.map,
      Except.map, pure, Except.pure]
  | each hn =>
    rw [Broadcast.traverse, mapM_replicate hn]
    cases hf : f a <;> simp [Broadcast.resolve, bind, Except.bind, Functor.map, Except.map, pure, Except.pure]

end Broadcast.Gives

/-- The ways to give all of so many prompts the priority zero. -/
inductive ZeroPriorities (n : Nat) : Option (List Int32) → Prop
  | absent : ZeroPriorities n none
  | given : ZeroPriorities n (some (List.replicate n 0))

theorem ZeroPriorities.resolve {n : Nat} {priority : Option (List Int32)} (h : ZeroPriorities n priority) :
    resolvePriorities n priority = .ok (List.replicate n 0) := by
  cases h <;> simp [resolvePriorities]

/-- The ways to hand over a list of prompts. Texts and tokens may be given apart; where both are, the texts count. -/
inductive PromptInput.Carries : List Prompt → PromptInput → Prop
  | single (prompt : Prompt) : Carries [prompt] (.single prompt)
  | batch (prompts : List Prompt) : Carries prompts (.batch prompts)
  | texts (texts : List String) : Carries (texts.map .ofText) (.split (some texts) none)
  | textsFirst {texts : List String} {tokens : List (List TokenId)} (h : tokens.length = texts.length) :
      Carries (texts.map .ofText) (.split (some texts) (some tokens))
  | tokens (tokens : List (List TokenId)) : Carries (tokens.map .ofTokens) (.split none (some tokens))

theorem PromptInput.Carries.normalize {prompts : List Prompt} {input : PromptInput} (h : input.Carries prompts) :
    input.normalize = .ok prompts := by
  cases h with
  | textsFirst hlength => exact if_pos hlength.symm
  | _ => rfl

/-- A batch whose prompts share everything becomes one request for each of them, unless the parameters fail. -/
theorem Batch.prepare_shared {b : Batch} {model : ModelConfig} {params : RequestParams} {lora : Option LoraAdapter}
    (hparams : b.params.Gives b.prompts.length params) (hlora : b.lora.Gives b.prompts.length lora)
    (hpriority : ZeroPriorities b.prompts.length b.priority) :
    b.prepare model =
      (fun final => b.prompts.map fun prompt => b.pending prompt final lora 0) <$> params.finalize b.guided model := by
  have hassemble (final : RequestParams) : b.assemble b.prompts (List.replicate b.prompts.length final)
      (List.replicate b.prompts.length lora) (List.replicate b.prompts.length 0) =
        b.prompts.map fun prompt => b.pending prompt final lora 0 := by
    simpa using b.assemble_shared b.prompts id final fun _ => lora
  have hconverted : (b.params.traverse (·.finalize b.guided model) >>= fun converted =>
      converted.resolve "params" b.prompts.length) = _ := hparams.traverse _ _
  rw [prepare, hparams.checkLength, hlora.checkLength, hpriority.resolve]
  change (b.params.traverse (·.finalize b.guided model) >>= fun converted =>
    converted.resolve "params" b.prompts.length >>= fun _ => _) = _
  rw [← bind_assoc, hconverted, bind_map_left, map_eq_pure_bind]
  refine bind_congr fun final => ?_
  rw [hlora.resolve, ← hassemble]
  rfl

/-! Generate calls. -/

/-- What a generate call asks for, in whatever way: completions of these prompts, all with the same parameters and
the same adapters. -/
structure Generating where
  prompts : List Prompt
  params : SamplingParams
  lora : Option LoraAdapter
  promptAdapter : Option PromptAdapter
  steerVector : Option SteerVector
  guided : Option GuidedOptions

namespace Service

variable {σ : Type} {svc : Service σ} {meant : Generating} {input : PromptInput} {options : GenerateOptions}
  {d : Option SamplingParams}

/-- The arguments ask for this. Parameters that are left out are the model's own. -/
structure Puts (svc : Service σ) (meant : Generating) (input : PromptInput) (options : GenerateOptions) : Prop where
  prompts : input.Carries meant.prompts
  params : (∃ b, options.params = some b ∧ b.Gives meant.prompts.length meant.params) ∨
    options.params = none ∧ meant.params = .ofDefaults svc.model.generationDefaults
  lora : options.lora.Gives meant.prompts.length meant.lora
  priority : ZeroPriorities meant.prompts.length options.priority
  promptAdapter : options.promptAdapter = meant.promptAdapter
  steerVector : options.steerVector = meant.steerVector
  guided : options.guided = meant.guided

/-- The remembered defaults, if there are any, are the model's own. -/
def Remembers (svc : Service σ) (d : Option SamplingParams) : Prop :=
  ∀ p, d = some p → p = .ofDefaults svc.model.generationDefaults

theorem Remembers.defaultsFrom (h : svc.Remembers d) : svc.defaultsFrom d = .ofDefaults svc.model.generationDefaults := by
  cases d with
  | none => rfl
  | some p => exact h p rfl

/-- The requests of a generate call, or its first error, as what it asks for says. -/
def generating (svc : Service σ) (meant : Generating) : Except CallError (List PendingRequest) := do
  svc.requireGeneration
  let guided ← guidance meant.guided
  let params ← (RequestParams.sampling meant.params).finalize guided svc.model
  return meant.prompts.map fun prompt =>
    { prompt, params, adapters := ⟨meant.lora, meant.promptAdapter, meant.steerVector⟩ }

/-- The parameters of the call are given to all prompts alike, also where they are left out. -/
theorem Puts.gives (h : svc.Puts meant input options) (hd : svc.Remembers d) :
    (options.params.getD (.one (svc.defaultsFrom d))).Gives meant.prompts.length meant.params := by
  rcases h.params with ⟨b, hb, hgives⟩ | ⟨hnone, hparams⟩
  · rwa [hb]
  · rw [hnone, Option.getD_none, hd.defaultsFrom, ← hparams]
    exact .one

/-- Parameters that truncate nothing ask for no truncation, once or for each prompt. -/
theorem truncationOf_gives (svc : Service σ) {n : Nat} {p : SamplingParams} {b : Broadcast SamplingParams}
    (h : b.Gives n p) (hp : p.truncatePromptTokens = none) : svc.truncationOf b = .ok none := by
  cases h with
  | one => rw [truncationOf, hp, Truncation.resolve]
  | each => rfl

/-- A generate call is checked to what it asks for, whatever the way it is put. -/
theorem Puts.validate (h : svc.Puts meant input options) (hd : svc.Remembers d)
    (hp : meant.params.truncatePromptTokens = none) :
    (BatchCall.generate input options).validate svc d = svc.generating meant := by
  have hgives := h.gives hd
  have htruncation := svc.truncationOf_gives hgives hp
  rw [BatchCall.validate, BatchCall.batch, generateBatch, generating]
  simp only [bind_assoc]
  refine bind_congr fun _ => ?_
  rw [h.prompts.normalize, h.guided]
  change (guidance meant.guided >>= fun _ => _) = _
  refine bind_congr fun guided => ?_
  rw [htruncation]
  change Batch.prepare _ svc.model = _
  rw [Batch.prepare_shared (hgives.map RequestParams.sampling) h.lora h.priority, map_eq_pure_bind]
  refine bind_congr fun final => ?_
  rw [h.promptAdapter, h.steerVector]
  rfl

end Service

end BatchInference
