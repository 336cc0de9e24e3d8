import BatchInference.Proofs.Batch.Prepare

/-!
Checking a batch, prompt by prompt. Which batches pass, what becomes of each prompt of one that does, and for what a
batch that does not is refused are told here by its arguments alone, without the order in which they are worked on.
A list of arguments is expanded only after its length was found right, so that no expansion fails.
-/

namespace BatchInference

namespace Broadcast

variable {α β : Type}

/-- The value for the prompt in a place. -/
def valueAt : Broadcast α → Nat → Option α
  | .one value, _ => some value
  | .each values, i => values[i]?

/-- There is one value for all of so many prompts, or as many as there are prompts. -/
def Fits (n : Nat) : Broadcast α → Prop
  | .one _ => True
  | .each values => values.length = n

variable {b : Broadcast α} {argument : String} {n : Nat}

theorem checkLength_eq_ok {u : Unit} : b.checkLength argument n = .ok u ↔ b.Fits n := by
  cases b with
  | one value => simp [checkLength, Fits]
  | each values => by_cases h : values.length = n <;> simp [checkLength, Fits, h]

theorem checkLength_eq_error {e : CallError} : b.checkLength argument n = .error e ↔
    ∃ values, b = .each values ∧ values.length ≠ n ∧ e = .shapeMismatch argument n values.length := by
  cases b with
  | one value => simp [checkLength]
  | each values =>
    by_cases h : values.length = n
    · simp [checkLength, h]
    · simp [checkLength, h, @eq_comm _ e]

/-- An argument that fits is expanded to the value for each prompt. -/
theorem Fits.exists_resolve (h : b.Fits n) (argument : String) :
    ∃ values : List α, b.resolve argument n = .ok values ∧ ∀ i < n, values[i]? = b.valueAt i := by
  cases b with
  | one value =>
    refine ⟨_, rfl, ?_⟩
    intro i hi
    simp [Broadcast.valueAt, hi]
  | each values => exact ⟨values, if_pos h, fun i _ => rfl⟩

theorem Fits.map (h : b.Fits n) (f : α → β) : (b.map f).Fits n := by
  cases b with
  | one value => trivial
  | each values => rwa [Broadcast.map, Fits, List.length_map]

theorem values_map (f : α → β) : (b.map f).values = b.values.map f := by
  cases b <;> rfl

theorem valueAt_map (f : α → β) (i : Nat) : (b.map f).valueAt i = (b.valueAt i).map f := by
  cases b with
  | one value => rfl
  | each values => exact List.getElem?_map

/-- A conversion that passes for some values only, and then always gives the same. -/
theorem traverse_eq_ok {f : α → Except CallError β} {passes : α → Prop} {g : α → β}
    (hf : ∀ a c, f a = .ok c ↔ passes a ∧ c = g a) {b' : Broadcast β} :
    b.traverse f = .ok b' ↔ (∀ a ∈ b.values, passes a) ∧ b' = b.map g := by
  cases b with
  | one value =>
    simp only [traverse, bind_eq_ok, hf, pure, Except.pure, Except.ok.injEq, values, List.forall_mem_singleton,
      Broadcast.map]
    constructor
    · rintro ⟨c, ⟨hpasses, rfl⟩, rfl⟩
      exact ⟨hpasses, rfl⟩
    · rintro ⟨hpasses, rfl⟩
      exact ⟨g value, ⟨hpasses, rfl⟩, rfl⟩
  | each vs =>
    have hall (cs : List β) : vs.mapM f = .ok cs ↔ (∀ a ∈ vs, passes a) ∧ cs = vs.map g := by
      rw [mapM_eq_ok]
      simp only [hf]
      constructor
      · intro h
        induction h with
        | nil => simp
        | cons ha _ ih => exact ⟨List.forall_mem_cons.mpr ⟨ha.1, ih.1⟩, by rw [ha.2, ih.2, List.map_cons]⟩
      · rintro ⟨hpasses, rfl⟩
        rw [List.forall₂_map_right_iff, List.forall₂_same]
        exact fun a ha => ⟨hpasses a ha, rfl⟩
    simp only [traverse, bind_eq_ok, hall, pure, Except.pure, Except.ok.injEq, values, Broadcast.map]
    constructor
    · rintro ⟨cs, ⟨hpasses, rfl⟩, rfl⟩
      exact ⟨hpasses, rfl⟩
    · rintro ⟨hpasses, rfl⟩
      exact ⟨vs.map g, ⟨hpasses, rfl⟩, rfl⟩

/-- A conversion fails as it does for the first value that does not pass. -/
theorem traverse_eq_error {f : α → Except CallError β} {e : CallError} : b.traverse f = .error e ↔
    ∃ (i : Nat) (a : α), b.values[i]? = some a ∧ f a = .error e ∧
      ∀ j < i, ∀ a', b.values[j]? = some a' → ∃ c, f a' = .ok c := by
  have hmapM : b.traverse f = .error e ↔ b.values.mapM f = .error e := by
    cases b with
    | one value => simp [traverse, values, bind_eq_error, pure, Except.pure]
    | each vs => simp [traverse, values, bind_eq_error, pure, Except.pure]
  rw [hmapM, mapM_eq_error]

end Broadcast

/-- The priority of the prompt in a place, zero where the caller gives none. -/
def priorityAt : Option (List Int32) → Nat → Option Int32
  | none, _ => some 0
  | some values, i => values[i]?

theorem exists_resolvePriorities {n : Nat} {priority : Option (List Int32)}
    (h : ∀ values, priority = some values → values.length = n) :
    ∃ values, resolvePriorities n priority = .ok values ∧ ∀ i < n, values[i]? = priorityAt priority i := by
  cases priority with
  | none =>
    refine ⟨_, rfl, ?_⟩
    intro i hi
    simp [priorityAt, hi]
  | some values => exact ⟨values, if_pos (h values rfl), fun i _ => rfl⟩

theorem length_of_resolvePriorities {n : Nat} {priority : Option (List Int32)} {l values : List Int32}
    (h : resolvePriorities n priority = .ok l) (hvalues : priority = some values) : values.length = n := by
  by_contra hlength
  simp [resolvePriorities, hvalues, hlength] at h

theorem resolvePriorities_eq_error {n : Nat} {priority : Option (List Int32)} {e : CallError} :
    resolvePriorities n priority = .error e ↔
      ∃ values, priority = some values ∧ values.length ≠ n ∧ e = .shapeMismatch "priority" n values.length := by
  cases priority with
  | none => simp [resolvePriorities]
  | some values =>
    by_cases h : values.length = n
    · simp [resolvePriorities, h]
    · simp [resolvePriorities, h, @eq_comm _ e]

namespace Batch

/-- Every argument that is given once per prompt is given for as many prompts as there are. -/
structure Fits (b : Batch) : Prop where
  params : b.params.Fits b.prompts.length
  lora : b.lora.Fits b.prompts.length
  priority : ∀ values, b.priority = some values → values.length = b.prompts.length

/-- The request for the prompt in a place: the prompt with its own parameters, adapter and priority, and with what
all requests of the batch share. -/
def requestAt (b : Batch) (i : Nat) : Option PendingRequest := do
  let prompt ← b.prompts[i]?
  let params ← b.params.valueAt i
  let lora ← b.lora.valueAt i
  let priority ← priorityAt b.priority i
  return {
    prompt, priority
    params := params.merged b.guided
    adapters := ⟨lora, b.promptAdapter, b.steerVector⟩
    truncation := b.truncation }

/-- The first thing wrong with a batch: an argument of the wrong length, in the order of the arguments, or else the
fault of the first parameters that do not pass. -/
inductive FirstFault (b : Batch) (model : ModelConfig) : CallError → Prop
  | params {values : List RequestParams} (given : b.params = .each values)
      (wrong : values.length ≠ b.prompts.length) :
      FirstFault b model (.shapeMismatch "params" b.prompts.length values.length)
  | lora {values : List (Option LoraAdapter)} (params : b.params.Fits b.prompts.length)
      (given : b.lora = .each values) (wrong : values.length ≠ b.prompts.length) :
      FirstFault b model (.shapeMismatch "lora_request" b.prompts.length values.length)
  | priority {values : List Int32} (params : b.params.Fits b.prompts.length) (lora : b.lora.Fits b.prompts.length)
      (given : b.priority = some values) (wrong : values.length ≠ b.prompts.length) :
      FirstFault b model (.shapeMismatch "priority" b.prompts.length values.length)
  | finalization {i : Nat} {p : RequestParams} {e : CallError} (fits : b.Fits) (there : b.params.values[i]? = some p)
      (fault : p.Fault b.guided model e)
      (earlier : ∀ j < i, ∀ q, b.params.values[j]? = some q → q.Passes b.guided model) :
      FirstFault b model e

variable {b : Batch} {model : ModelConfig} {pending : List PendingRequest} {e : CallError}

theorem getElem?_assemble (prompts : List Prompt) (params : List RequestParams) (loras : List (Option LoraAdapter))
    (priorities : List Int32) (i : Nat) :
    (b.assemble prompts params loras priorities)[i]? = do
      let prompt ← prompts[i]?
      let p ← params[i]?
      let lora ← loras[i]?
      let priority ← priorities[i]?
      return b.pending prompt p lora priority := by
  fun_induction b.assemble prompts params loras priorities generalizing i with
  | case1 prompt prompts p params lora loras priority priorities ih =>
    cases i with
    | zero => rfl
    | succ i => simpa using ih i
  | case2 prompts params loras priorities hshort =>
    -- one of the four lists is used up
    cases prompts with
    | nil => rfl
    | cons prompt prompts =>
      cases params with
      | nil => cases (prompt :: prompts)[i]? <;> rfl
      | cons p params =>
        cases loras with
        | nil => cases (prompt :: prompts)[i]? <;> cases (p :: params)[i]? <;> rfl
        | cons lora loras =>
          cases priorities with
          | nil =>
            cases (prompt :: prompts)[i]? <;> cases (p :: params)[i]? <;> cases (lora :: loras)[i]? <;> rfl
          | cons priority priorities => exact (hshort _ _ _ _ _ _ _ _ rfl rfl rfl rfl).elim

/-- A batch that fits and whose parameters pass becomes its requests: once they pass, nothing can fail. -/
theorem exists_prepare (hfits : b.Fits) (hpasses : ∀ p ∈ b.params.values, p.Passes b.guided model) :
    ∃ pending, b.prepare model = .ok pending ∧ ∀ i < b.prompts.length, pending[i]? = b.requestAt i := by
  obtain ⟨params, hparams, hparamsAt⟩ := (hfits.params.map (RequestParams.merged b.guided)).exists_resolve "params"
  obtain ⟨loras, hloras, hlorasAt⟩ := hfits.lora.exists_resolve "lora_request"
  obtain ⟨priorities, hpriorities, hprioritiesAt⟩ := exists_resolvePriorities hfits.priority
  have hfinal : b.params.traverse (·.finalize b.guided model) = .ok (b.params.map (RequestParams.merged b.guided)) :=
    (Broadcast.traverse_eq_ok fun _ _ => RequestParams.finalize_eq_ok).mpr ⟨hpasses, rfl⟩
  refine ⟨_, prepare_eq_ok.mpr ⟨Broadcast.checkLength_eq_ok.mpr hfits.params, Broadcast.checkLength_eq_ok.mpr hfits.lora,
    priorities, hpriorities, _, hfinal, params, hparams, loras, hloras, rfl⟩, ?_⟩
  intro i hi
  rw [getElem?_assemble, hparamsAt i hi, hlorasAt i hi, hprioritiesAt i hi, Broadcast.valueAt_map, requestAt]
  cases b.prompts[i]? <;> cases b.params.valueAt i <;> rfl

theorem passed_of_prepare (h : b.prepare model = .ok pending) :
    b.Fits ∧ ∀ p ∈ b.params.values, p.Passes b.guided model := by
  obtain ⟨hparams, hlora, priorities, hpriorities, final, hfinal, _⟩ := prepare_eq_ok.mp h
  refine ⟨⟨Broadcast.checkLength_eq_ok.mp hparams, Broadcast.checkLength_eq_ok.mp hlora, ?_⟩, ?_⟩
  · exact fun _ => length_of_resolvePriorities hpriorities
  · exact ((Broadcast.traverse_eq_ok fun _ _ => RequestParams.finalize_eq_ok).mp hfinal).1

/-- Each request of a batch that passes is that for the prompt in its place. -/
theorem requestAt_of_prepare (h : b.prepare model = .ok pending) {i : Nat} {r : PendingRequest}
    (hr : pending[i]? = some r) : b.requestAt i = some r := by
  obtain ⟨hfits, hpasses⟩ := passed_of_prepare h
  obtain ⟨pending', h', hrequests⟩ := exists_prepare hfits hpasses
  rw [h] at h'
  cases h'
  have hlength : pending.length = b.prompts.length := by
    rw [← prompts_of_prepare h, List.length_map]
  obtain ⟨hi, -⟩ := List.getElem?_eq_some_iff.mp hr
  rw [← hrequests i (by omega), hr]

theorem FirstFault.prepare_eq_error (h : b.FirstFault model e) : b.prepare model = .error e := by
  unfold prepare
  cases h with
  | params given wrong => exact bind_eq_error.mpr (.inl (Broadcast.checkLength_eq_error.mpr ⟨_, given, wrong, rfl⟩))
  | lora params given wrong =>
    refine bind_eq_error.mpr (.inr ⟨(), Broadcast.checkLength_eq_ok.mpr params, ?_⟩)
    exact bind_eq_error.mpr (.inl (Broadcast.checkLength_eq_error.mpr ⟨_, given, wrong, rfl⟩))
  | priority params lora given wrong =>
    refine bind_eq_error.mpr (.inr ⟨(), Broadcast.checkLength_eq_ok.mpr params, ?_⟩)
    refine bind_eq_error.mpr (.inr ⟨(), Broadcast.checkLength_eq_ok.mpr lora, ?_⟩)
    exact bind_eq_error.mpr (.inl (resolvePriorities_eq_error.mpr ⟨_, given, wrong, rfl⟩))
  | finalization fits there fault earlier =>
    obtain ⟨priorities, hpriorities, _⟩ := exists_resolvePriorities fits.priority
    refine bind_eq_error.mpr (.inr ⟨(), Broadcast.checkLength_eq_ok.mpr fits.params, ?_⟩)
    refine bind_eq_error.mpr (.inr ⟨(), Broadcast.checkLength_eq_ok.mpr fits.lora, ?_⟩)
    refine bind_eq_error.mpr (.inr ⟨priorities, hpriorities, ?_⟩)
    refine bind_eq_error.mpr (.inl (Broadcast.traverse_eq_error.mpr ⟨_, _, there, ?_, ?_⟩))
    · exact RequestParams.finalize_eq_error.mpr fault
    · intro j hj q hq
      exact ⟨_, RequestParams.finalize_eq_ok.mpr ⟨earlier j hj q hq, rfl⟩⟩

/-- A batch that does not pass is refused for the first thing that is wrong with it. -/
theorem prepare_eq_error : b.prepare model = .error e ↔ b.FirstFault model e := by
  refine ⟨?_, FirstFault.prepare_eq_error⟩
  intro hprepare
  have h := hprepare
  unfold prepare at h
  rcases bind_eq_error.mp h with hparams | ⟨_, hparams, h⟩
  · obtain ⟨values, given, wrong, rfl⟩ := Broadcast.checkLength_eq_error.mp hparams
    exact .params given wrong
  have fitParams := Broadcast.checkLength_eq_ok.mp hparams
  rcases bind_eq_error.mp h with hlora | ⟨_, hlora, h⟩
  · obtain ⟨values, given, wrong, rfl⟩ := Broadcast.checkLength_eq_error.mp hlora
    exact .lora fitParams given wrong
  have fitLora := Broadcast.checkLength_eq_ok.mp hlora
  rcases bind_eq_error.mp h with hpriority | ⟨priorities, hpriority, h⟩
  · obtain ⟨values, given, wrong, rfl⟩ := resolvePriorities_eq_error.mp hpriority
    exact .priority fitParams fitLora given wrong
  have fits : b.Fits := ⟨fitParams, fitLora, fun _ => length_of_resolvePriorities hpriority⟩
  rcases bind_eq_error.mp h with hfinal | ⟨final, hfinal, _⟩
  · obtain ⟨i, p, there, hfault, hearlier⟩ := Broadcast.traverse_eq_error.mp hfinal
    refine .finalization fits there (RequestParams.finalize_eq_error.mp hfault) ?_
    intro j hj q hq
    obtain ⟨_, hpasses⟩ := hearlier j hj q hq
    exact (RequestParams.finalize_eq_ok.mp hpasses).1
  · -- all checks have passed, and then the batch is prepared
    have hpasses := ((Broadcast.traverse_eq_ok fun _ _ => RequestParams.finalize_eq_ok).mp hfinal).1
    obtain ⟨pending, hpending, _⟩ := exists_prepare fits hpasses
    rw [hpending] at hprepare
    cases hprepare

/-- A batch passes exactly if its arguments fit its prompts and all parameters that were given pass, also a single
one for no prompts. It then becomes one request for each prompt, in order, each with what was given for its prompt;
otherwise it is refused for the first thing that is wrong with it. What is expanded after the checks fits. -/
theorem prepared_prompt_by_prompt (b : Batch) (model : ModelConfig) :
    ((∃ pending, b.prepare model = .ok pending) ↔ b.Fits ∧ ∀ p ∈ b.params.values, p.Passes b.guided model) ∧
    (∀ pending, b.prepare model = .ok pending → pending.length = b.prompts.length ∧
      ∀ i < b.prompts.length, ∃ r, b.requestAt i = some r ∧ pending[i]? = some r) ∧
    (∀ e, b.prepare model = .error e ↔ b.FirstFault model e) ∧
    ∀ final, b.Fits → b.params.traverse (·.finalize b.guided model) = .ok final →
      (∃ params, final.resolve "params" b.prompts.length = .ok params) ∧
        ∃ loras, b.lora.resolve "lora_request" b.prompts.length = .ok loras := by
  refine ⟨⟨?_, ?_⟩, ?_, fun e => prepare_eq_error, ?_⟩
  · rintro ⟨pending, h⟩
    exact passed_of_prepare h
  · rintro ⟨hfits, hpasses⟩
    obtain ⟨pending, h, _⟩ := exists_prepare hfits hpasses
    exact ⟨pending, h⟩
  · intro pending h
    have hlength : pending.length = b.prompts.length := by
      rw [← prompts_of_prepare h, List.length_map]
    refine ⟨hlength, ?_⟩
    intro i hi
    obtain ⟨hfits, hpasses⟩ := passed_of_prepare h
    obtain ⟨pending', h', hrequests⟩ := exists_prepare hfits hpasses
    rw [h] at h'
    cases h'
    have hi' : i < pending.length := by omega
    refine ⟨pending[i], ?_, List.getElem?_eq_getElem hi'⟩
    rw [← hrequests i hi, List.getElem?_eq_getElem hi']
  · intro final hfits hfinal
    obtain ⟨_, rfl⟩ := (Broadcast.traverse_eq_ok fun _ _ => RequestParams.finalize_eq_ok).mp hfinal
    obtain ⟨params, hparams, _⟩ := (hfits.params.map (RequestParams.merged b.guided)).exists_resolve "params"
    obtain ⟨loras, hloras, _⟩ := hfits.lora.exists_resolve "lora_request"
    exact ⟨⟨params, hparams⟩, loras, hloras⟩

end Batch

end BatchInference
