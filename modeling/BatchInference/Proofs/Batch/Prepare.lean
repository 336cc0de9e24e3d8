import BatchInference.Batch.Basic
import BatchInference.Update
import BatchInference.Proofs.Checks

/-!
What a batch that passes its checks is made of: one request for each prompt, each with its own prompt, parameters
that asked for the same kind of output before they were made final, its own adapter and its own priority. Every one
of these requests is fit for the model, as long as the truncation of the batch is within the context window.
-/

namespace BatchInference

def RequestParams.sort : RequestParams → OutputSort
  | .sampling _ => .generation
  | .pooling _ => .pooled

namespace Broadcast

variable {α β : Type}

/-- The values a caller gave, once each. -/
def values : Broadcast α → List α
  | .one value => [value]
  | .each values => values

theorem mem_values_map {b : Broadcast α} {f : α → β} {y : β} : y ∈ (b.map f).values ↔ ∃ a ∈ b.values, f a = y := by
  cases b <;> simp [map, values, eq_comm]

theorem length_resolve {b : Broadcast α} {argument : String} {n : Nat} {l : List α}
    (h : b.resolve argument n = .ok l) : l.length = n := by
  cases b with
  | one value =>
    cases h
    exact List.length_replicate
  | each values =>
    simp only [resolve] at h
    split at h
    · cases h
      assumption
    · cases h

theorem mem_values_of_resolve {b : Broadcast α} {argument : String} {n : Nat} {l : List α}
    (h : b.resolve argument n = .ok l) {a : α} (ha : a ∈ l) : a ∈ b.values := by
  cases b with
  | one value =>
    cases h
    exact List.mem_singleton.mpr (List.eq_of_mem_replicate ha)
  | each values =>
    simp only [resolve] at h
    split at h
    · cases h
      exact ha
    · cases h

/-- Every value of a conversion is that of a value that was given. -/
theorem exists_of_traverse {b : Broadcast α} {f : α → Except CallError β} {b' : Broadcast β}
    (h : b.traverse f = .ok b') {y : β} (hy : y ∈ b'.values) : ∃ a ∈ b.values, f a = .ok y := by
  cases b with
  | one value =>
    obtain ⟨z, hz, h⟩ := bind_eq_ok.mp h
    cases h
    cases List.mem_singleton.mp hy
    exact ⟨value, List.mem_singleton_self value, hz⟩
  | each values =>
    obtain ⟨zs, hzs, h⟩ := bind_eq_ok.mp h
    cases h
    have hall := mapM_eq_ok.mp hzs
    obtain ⟨i, hi, rfl⟩ := List.getElem_of_mem hy
    exact ⟨_, List.getElem_mem (hall.length_eq ▸ hi), (List.forall₂_iff_get.mp hall).2 i _ hi⟩

end Broadcast

theorem length_resolvePriorities {n : Nat} {priority : Option (List Int32)} {l : List Int32}
    (h : resolvePriorities n priority = .ok l) : l.length = n := by
  cases priority with
  | none =>
    cases h
    exact List.length_replicate
  | some values =>
    simp only [resolvePriorities] at h
    split at h
    · cases h
      assumption
    · cases h

/-! Parameters as they are submitted. -/

namespace RequestParams

/-- The call has guidance for parameters that have guidance of their own. -/
def GuidedTwice (guided : Option GuidedDecoding) : RequestParams → Prop
  | .sampling p => guided.isSome ∧ p.guidedDecoding.isSome
  | .pooling _ => False

/-- Parameters with the guidance of the call, where it has any. Sampling ones report at their end only. -/
def merged (guided : Option GuidedDecoding) : RequestParams → RequestParams
  | .sampling p => .sampling { p with guidedDecoding := guided <|> p.guidedDecoding, outputKind := .finalOnly }
  | .pooling p => .pooling p

/-- Parameters that have no guidance twice and are in their ranges as they are submitted. -/
def Passes (guided : Option GuidedDecoding) (model : ModelConfig) (p : RequestParams) : Prop :=
  ¬ p.GuidedTwice guided ∧ (p.merged guided).verify model = .ok ()

/-- What is wrong with parameters: guidance given twice, or else the first setting out of its range. -/
inductive Fault (guided : Option GuidedDecoding) (model : ModelConfig) (p : RequestParams) : CallError → Prop
  | guidedTwice (twice : p.GuidedTwice guided) : Fault guided model p (.conflictingConfig .guidedTwice)
  | outOfRange {e : CallError} (once : ¬ p.GuidedTwice guided) (fails : (p.merged guided).verify model = .error e) :
      Fault guided model p e

variable {guided : Option GuidedDecoding} {model : ModelConfig} {p q : RequestParams} {e : CallError}

theorem finalize_of_guidedTwice (h : p.GuidedTwice guided) :
    p.finalize guided model = .error (.conflictingConfig .guidedTwice) := by
  cases p with
  | sampling s =>
    obtain ⟨g, hg⟩ := Option.isSome_iff_exists.mp h.1
    obtain ⟨own, hown⟩ := Option.isSome_iff_exists.mp h.2
    simp only [finalize, SamplingParams.finalize, hg, hown]
    rfl
  | pooling s => exact h.elim

theorem finalize_of_not_guidedTwice (h : ¬ p.GuidedTwice guided) :
    p.finalize guided model = (p.merged guided).verify model >>= fun _ => pure (p.merged guided) := by
  cases p with
  | sampling s =>
    cases guided with
    | none => rfl
    | some g =>
      have hown : s.guidedDecoding = none := by
        simpa [GuidedTwice] using h
      simp only [finalize, SamplingParams.finalize, merged, hown]
      rfl
  | pooling s => rfl

theorem finalize_eq_ok : p.finalize guided model = .ok q ↔ p.Passes guided model ∧ q = p.merged guided := by
  by_cases h : p.GuidedTwice guided
  · simp [finalize_of_guidedTwice h, Passes, h]
  · rw [finalize_of_not_guidedTwice h, bind_eq_ok]
    constructor
    · rintro ⟨⟨⟩, hverify, hq⟩
      cases hq
      exact ⟨⟨h, hverify⟩, rfl⟩
    · rintro ⟨⟨_, hverify⟩, rfl⟩
      exact ⟨(), hverify, rfl⟩

theorem finalize_eq_error : p.finalize guided model = .error e ↔ p.Fault guided model e := by
  by_cases h : p.GuidedTwice guided
  · rw [finalize_of_guidedTwice h]
    constructor
    · intro he
      cases he
      exact .guidedTwice h
    · intro hfault
      cases hfault with
      | guidedTwice => rfl
      | outOfRange once => exact absurd h once
  · rw [finalize_of_not_guidedTwice h, bind_eq_error]
    constructor
    · rintro (hfails | ⟨_, _, hpure⟩)
      · exact .outOfRange h hfails
      · cases hpure
    · intro hfault
      cases hfault with
      | guidedTwice twice => exact absurd twice h
      | outOfRange _ fails => exact .inl fails

theorem sort_finalize (h : p.finalize guided model = .ok q) : q.sort = p.sort := by
  obtain ⟨_, rfl⟩ := finalize_eq_ok.mp h
  cases p <;> rfl

/-- Parameters are made final only if they pass as they are submitted, and then report at their end only. -/
theorem finalized (h : p.finalize guided model = .ok q) :
    q.verify model = .ok () ∧ ∀ s, q = .sampling s → s.outputKind = .finalOnly := by
  obtain ⟨⟨_, hverify⟩, rfl⟩ := finalize_eq_ok.mp h
  refine ⟨hverify, ?_⟩
  intro s hs
  cases p <;> cases hs
  rfl

end RequestParams

/-! What the checks make sure of. -/

/-- Truncation, if there is any, keeps no more than the context window holds. -/
def Truncation.Within (window : Nat) (truncation : Option Truncation) : Prop :=
  ∀ t, truncation = some t → t.enabled = true ∧ t.maxLength ≤ window

/-- A request that a model can be given: its parameters pass by themselves, it reports nothing before its end and has
at most one mode of guidance, and what is kept of its prompt is within the context window. -/
structure PendingRequest.FitFor (model : ModelConfig) (r : PendingRequest) : Prop where
  verified : r.params.verify model = .ok ()
  sampling : ∀ p, r.params = .sampling p →
    p.outputKind = .finalOnly ∧ ∀ g, p.guidedDecoding = some g → g.modeCount ≤ 1
  truncation : Truncation.Within model.maxModelLen r.truncation

theorem Truncation.within_none (window : Nat) : Within window none := nofun

theorem Truncation.within_of_resolve {window : Nat} {requested : Option Int} {truncation : Option Truncation}
    (h : resolve window requested = .ok truncation) : Within window truncation := by
  cases requested with
  | none =>
    cases h
    exact within_none window
  | some k =>
    simp only [resolve] at h
    generalize (if k < 0 then window else k.toNat) = length at h
    split at h
    · cases h
    · cases h
      rename_i hfits
      rintro _ ⟨⟩
      exact ⟨rfl, Nat.le_of_not_lt hfits⟩

theorem SamplingParams.modeCount_of_verify {p : SamplingParams} (h : p.verify = .ok ()) {g : GuidedDecoding}
    (hg : p.guidedDecoding = some g) : g.modeCount ≤ 1 := by
  simp only [verify, bind_eq_ok, require_eq_ok, hg] at h
  obtain ⟨_, _, _, _, _, _, _, _, _, _, _, _, _, _, hmodes⟩ := h
  simpa using hmodes

namespace Batch

variable {b : Batch} {model : ModelConfig} {pending : List PendingRequest}

/-- A batch passes if its arguments fit its prompts and its parameters pass; it is then put together from them. -/
theorem prepare_eq_ok : b.prepare model = .ok pending ↔
    b.params.checkLength "params" b.prompts.length = .ok () ∧
    b.lora.checkLength "lora_request" b.prompts.length = .ok () ∧
    ∃ priorities, resolvePriorities b.prompts.length b.priority = .ok priorities ∧
    ∃ final, b.params.traverse (·.finalize b.guided model) = .ok final ∧
    ∃ params, final.resolve "params" b.prompts.length = .ok params ∧
    ∃ loras, b.lora.resolve "lora_request" b.prompts.length = .ok loras ∧
      b.assemble b.prompts params loras priorities = pending := by
  simp only [prepare, bind_eq_ok, pure, Except.pure, Except.ok.injEq]
  constructor
  · rintro ⟨⟨⟩, hparams, ⟨⟩, hlora, rest⟩
    exact ⟨hparams, hlora, rest⟩
  · rintro ⟨hparams, hlora, rest⟩
    exact ⟨(), hparams, (), hlora, rest⟩

section Assemble

variable {prompts : List Prompt} {params : List RequestParams} {loras : List (Option LoraAdapter)}
  {priorities : List Int32}

theorem prompts_assemble (hparams : params.length = prompts.length) (hloras : loras.length = prompts.length)
    (hpriorities : priorities.length = prompts.length) :
    (b.assemble prompts params loras priorities).map (·.prompt) = prompts := by
  induction prompts generalizing params loras priorities with
  | nil => rfl
  | cons prompt rest ih =>
    obtain ⟨p, params, rfl⟩ := List.exists_cons_of_length_eq_add_one hparams
    obtain ⟨l, loras, rfl⟩ := List.exists_cons_of_length_eq_add_one hloras
    obtain ⟨q, priorities, rfl⟩ := List.exists_cons_of_length_eq_add_one hpriorities
    simp only [List.length_cons, Nat.add_right_cancel_iff] at hparams hloras hpriorities
    simp only [assemble, List.map_cons, ih hparams hloras hpriorities]
    rfl

theorem params_assemble (hparams : params.length = prompts.length) (hloras : loras.length = prompts.length)
    (hpriorities : priorities.length = prompts.length) :
    (b.assemble prompts params loras priorities).map (·.params) = params := by
  induction prompts generalizing params loras priorities with
  | nil =>
    cases List.length_eq_zero_iff.mp hparams
    rfl
  | cons prompt rest ih =>
    obtain ⟨p, params, rfl⟩ := List.exists_cons_of_length_eq_add_one hparams
    obtain ⟨l, loras, rfl⟩ := List.exists_cons_of_length_eq_add_one hloras
    obtain ⟨q, priorities, rfl⟩ := List.exists_cons_of_length_eq_add_one hpriorities
    simp only [List.length_cons, Nat.add_right_cancel_iff] at hparams hloras hpriorities
    simp only [assemble, List.map_cons, ih hparams hloras hpriorities]
    rfl

/-- All requests of a batch share its truncation. -/
theorem truncation_of_mem_assemble {r : PendingRequest} (hr : r ∈ b.assemble prompts params loras priorities) :
    r.truncation = b.truncation := by
  fun_induction b.assemble prompts params loras priorities with
  | case1 prompt prompts params paramss lora loras priority priorities ih =>
    rcases List.mem_cons.mp hr with rfl | hrest
    · rfl
    · exact ih hrest
  | case2 => cases hr

/-- Requests that share their parameters and have no priorities of their own. -/
theorem assemble_shared {α : Type} (xs : List α) (prompt : α → Prompt) (params : RequestParams)
    (lora : α → Option LoraAdapter) :
    b.assemble (xs.map prompt) (List.replicate xs.length params) (xs.map lora) (List.replicate xs.length 0) =
      xs.map fun x => b.pending (prompt x) params (lora x) 0 := by
  induction xs with
  | nil => rfl
  | cons x rest ih => simp only [List.map_cons, List.length_cons, List.replicate_succ, assemble, ih]

end Assemble

theorem prompts_of_prepare (h : b.prepare model = .ok pending) : pending.map (·.prompt) = b.prompts := by
  obtain ⟨_, _, priorities, hpriorities, final, _, params, hparams, loras, hloras, rfl⟩ := prepare_eq_ok.mp h
  exact prompts_assemble (Broadcast.length_resolve hparams) (Broadcast.length_resolve hloras)
    (length_resolvePriorities hpriorities)

/-- The parameters of a request are some that were given, made final. -/
theorem exists_finalized (h : b.prepare model = .ok pending) {r : PendingRequest} (hr : r ∈ pending) :
    ∃ p ∈ b.params.values, p.finalize b.guided model = .ok r.params := by
  obtain ⟨_, _, priorities, hpriorities, final, hfinal, params, hparams, loras, hloras, rfl⟩ := prepare_eq_ok.mp h
  have hmem : r.params ∈ params := by
    rw [← params_assemble (b := b) (Broadcast.length_resolve hparams) (Broadcast.length_resolve hloras)
      (length_resolvePriorities hpriorities)]
    exact List.mem_map_of_mem hr
  exact Broadcast.exists_of_traverse hfinal (Broadcast.mem_values_of_resolve hparams hmem)

theorem sort_of_prepare (h : b.prepare model = .ok pending) {sort : OutputSort}
    (hsort : ∀ p ∈ b.params.values, p.sort = sort) : ∀ r ∈ pending, r.params.sort = sort := by
  intro r hr
  obtain ⟨p, hp, hfinalize⟩ := exists_finalized h hr
  rw [RequestParams.sort_finalize hfinalize, hsort p hp]

/-- All requests of a batch that passes carry its truncation. -/
theorem truncation_of_prepare (h : b.prepare model = .ok pending) : ∀ r ∈ pending, r.truncation = b.truncation := by
  intro r hr
  obtain ⟨_, _, priorities, _, _, _, params, _, loras, _, rfl⟩ := prepare_eq_ok.mp h
  exact truncation_of_mem_assemble hr

/-- All requests of a batch that passes are fit for the model. -/
theorem fit_of_prepare (h : b.prepare model = .ok pending)
    (hwithin : Truncation.Within model.maxModelLen b.truncation) : ∀ r ∈ pending, r.FitFor model := by
  intro r hr
  obtain ⟨p, _, hfinalize⟩ := exists_finalized h hr
  obtain ⟨hverify, hkind⟩ := RequestParams.finalized hfinalize
  refine ⟨hverify, ?_, ?_⟩
  · intro q hq
    rw [hq] at hverify
    exact ⟨hkind q hq, fun g hg => SamplingParams.modeCount_of_verify hverify hg⟩
  · rw [truncation_of_prepare h r hr]
    exact hwithin

end Batch

end BatchInference
