import BatchInference.Proofs.Beam.Runs
import BatchInference.Proofs.Score.Ends

/-!
What a call asks of its engine, on every route and whatever comes of it. Requests are offered under the ids that the
counter gives next, one id for each attempt, and nothing else draws any; and every request that is offered has passed
the checks of its batch. What one batch asks is so by its submission, and a call asks nothing but what its batches
ask, one after another.
-/

namespace BatchInference

open Run

variable {σ τ : Type}

/-- What is asked takes the counter from one stand to another: each request that is offered has drawn the next id, and
nothing else has drawn any. -/
structure Draws (counter : IdCounter) (uses : List EngineUse) (left : IdCounter) : Prop where
  ids : (EngineUse.requests uses).map (·.id) = counter.ids (EngineUse.requests uses).length
  left_eq : left = counter.skip (EngineUse.requests uses).length

/-- Moreover each request that is offered is fit for the model of the engine. -/
structure Asks (model : ModelConfig) (counter : IdCounter) (uses : List EngineUse) (left : IdCounter) : Prop
    extends Draws counter uses left where
  fit : ∀ r ∈ EngineUse.requests uses, r.FitFor model

section Draws

variable {model : ModelConfig} {counter mid left : IdCounter} {uses more : List EngineUse}

theorem Draws.nothing : Draws counter [] counter where
  ids := rfl
  left_eq := counter.skip_zero.symm

theorem Draws.append (h : Draws counter uses mid) (h' : Draws mid more left) : Draws counter (uses ++ more) left where
  ids := by
    have hmore := h'.ids
    rw [h.left_eq] at hmore
    rw [EngineUse.requests_append, List.map_append, List.length_append, IdCounter.ids_add, h.ids, hmore]
  left_eq := by
    rw [h'.left_eq, h.left_eq, IdCounter.skip_skip, EngineUse.requests_append, List.length_append]

/-- What is drawn by two in turn is drawn by the first and then, from where the first leaves the counter, by the
second. -/
theorem Draws.of_append (h : Draws counter (uses ++ more) left) :
    Draws counter uses (counter.skip (EngineUse.requests uses).length) ∧
      Draws (counter.skip (EngineUse.requests uses).length) more left := by
  have hids := h.ids
  rw [EngineUse.requests_append, List.map_append, List.length_append, IdCounter.ids_add] at hids
  obtain ⟨huses, hmore⟩ := List.append_inj hids (by simp)
  refine ⟨⟨huses, rfl⟩, hmore, ?_⟩
  rw [h.left_eq, IdCounter.skip_skip, EngineUse.requests_append, List.length_append]

theorem Asks.nothing : Asks model counter [] counter := ⟨.nothing, List.forall_mem_nil _⟩

theorem Asks.append (h : Asks model counter uses mid) (h' : Asks model mid more left) :
    Asks model counter (uses ++ more) left where
  toDraws := h.toDraws.append h'.toDraws
  fit := by
    intro r hr
    rw [EngineUse.requests_append, List.mem_append] at hr
    exact hr.elim (h.fit r) (h'.fit r)

end Draws

/-- Keeping a record of the engine's uses changes nothing about the arguments. -/
theorem BatchCall.batch_recorded (c : BatchCall) {svc : Service σ} {d : Option SamplingParams} :
    c.batch svc.recorded d = c.batch svc d := by
  cases c <;> rfl

namespace Service

variable {svc : Service σ} {w : World σ τ} {core after : Core σ} {ticks left : Nat} {sink : Option (ProgressSink τ)}
  {batch : Batch} {params : BeamParams} {hs hs' roots : List Hypotheses} {steps : List (SearchStep σ)}
  {result : Except Halt (List Hypotheses)} {prompts : List Prompt} {lora : Broadcast (Option LoraAdapter)}

/-- A batch that truncates to the context window at most asks for what has passed its checks. -/
theorem batchUses_asks (hwithin : Truncation.Within svc.model.maxModelLen batch.truncation) (ticks : Nat)
    (core : Core σ) :
    Asks svc.model core.counter (svc.batchUses ticks batch core) (svc.batchEnd ticks batch core).2.counter := by
  cases hprepare : batch.prepare svc.model with
  | error e =>
    rw [batchUses_of_prepare_error hprepare, batchEnd_of_prepare_error hprepare]
    exact .nothing
  | ok pending =>
    obtain ⟨offered, _, hrequests, hcounter, _⟩ := exists_offered hprepare ticks core
    refine ⟨⟨?_, ?_⟩, ?_⟩
    · rw [hrequests, IdCounter.ids_number, IdCounter.length_number]
    · rw [hrequests, hcounter, IdCounter.length_number]
    · intro r hr
      exact Batch.fit_of_prepare hprepare hwithin _ (pending_of_offered hprepare hr)

theorem stepUses_asks (svc : Service σ) (ticks : Nat) (params : BeamParams) (beams : List BeamSequence)
    (core : Core σ) : Asks svc.model core.counter (svc.batchUses ticks (beamBatch params beams) core)
      (svc.stepEnd ticks params beams core).2.counter :=
  batchUses_asks (Truncation.within_none _) ticks core

theorem Steps.asks (h : svc.Steps ticks params steps core hs after hs') :
    Asks svc.model core.counter (steps.flatMap (·.uses svc ticks params)) after.counter := by
  induction h with
  | none => exact .nothing
  | @cons steps core _ _ hs _ _ _ hstep _ ih =>
    have hfirst := svc.stepUses_asks ticks params (hs.flatMap (·.active)) core
    rw [hstep] at hfirst
    exact hfirst.append ih

theorem Stops.asks (h : svc.Stops ticks params left core hs result after) :
    Asks svc.model core.counter (svc.stopUses ticks params left core hs) after.counter := by
  unfold stopUses
  cases h with
  | outOfSteps hleft =>
    rw [if_pos (.inl hleft)]
    exact .nothing
  | outOfBeams hidle =>
    rw [if_pos (.inr hidle)]
    exact .nothing
  | failed hleft hbusy hstep =>
    rw [if_neg (not_or.mpr ⟨Nat.ne_of_gt hleft, hbusy⟩)]
    have hfailed := svc.stepUses_asks ticks params (hs.flatMap (·.active)) core
    rwa [hstep] at hfailed

/-- A search asks what its completed steps ask and then what the step asks that fails, if one does. -/
theorem Course.asks {mid : Core σ} {found : Except Halt (List (List BeamSequence))}
    (h : svc.Course ticks params core roots steps mid hs found after) :
    Asks svc.model core.counter (svc.searchUses ticks params steps mid hs) after.counter := by
  obtain ⟨result, hstops, _⟩ := h.stops
  exact h.completes.asks.append hstops.asks

theorem scoreBatch_within {options : ScoreOptions} {lefts rights : List String}
    (h : svc.scoreBatch options lefts rights = .ok batch) :
    Truncation.Within svc.model.maxModelLen batch.truncation := by
  unfold scoreBatch at h
  split at h
  case isTrue =>
    -- the pairs are cut before they become prompts, so the engine is told nothing about it
    obtain ⟨_, _, hbatch⟩ := bind_eq_ok.mp h
    cases hbatch
    exact Truncation.within_none _
  case isFalse => exact (BatchCall.encodeBatch_made h).2.2

/-- A call and what it asks: a record of the engine's uses changes nothing about how the call ends, and grows by what
the call asks. -/
structure CallAsks (svc : Service σ) (ticks : Nat) (sink : Option (ProgressSink τ)) (call : Call) (w : World σ τ)
    (asked : List EngineUse) (result : Except Halt Answer) (after : Core σ) : Prop where
  ends : (svc.call ticks sink call).Ends w result after
  recorded : ∀ uses, (svc.recorded.call ticks sink call).Ends (w.recorded uses) result (after.recorded (uses ++ asked))
  asks : Asks svc.model w.counter asked after.counter

/-- A call asks nothing if no record grows by it and it draws no id. -/
theorem CallAsks.nothing {call : Call} {result : Except Halt Answer}
    (hends : (svc.call ticks sink call).Ends w result after)
    (hrecorded : ∀ uses, (svc.recorded.call ticks sink call).Ends (w.recorded uses) result (after.recorded uses))
    (hcounter : after.counter = w.counter) : svc.CallAsks ticks sink call w [] result after where
  ends := hends
  recorded := by
    intro uses
    rw [List.append_nil]
    exact hrecorded uses
  asks := by
    rw [hcounter]
    exact .nothing

/-- A call that runs one batch asks what its batch asks, if its arguments pass. -/
theorem batchCall_asks_batch {c : BatchCall} (hbatch : c.batch svc w.defaults = .ok batch)
    (hcore : core = ⟨w.engine, w.counter, c.rememberedAfter svc w.defaults⟩) :
    svc.CallAsks ticks sink c.call w (svc.batchUses ticks batch core)
      (resultOf (svc.batchEnd ticks batch core).1 c.answer) (svc.batchEnd ticks batch core).2 where
  ends := c.call_ends ticks sink hbatch rfl hcore
  recorded := by
    intro uses
    have hbatch' : c.batch svc.recorded w.defaults = .ok batch := c.batch_recorded.trans hbatch
    have hcore' : core.recorded uses = ⟨(w.engine, uses), w.counter, c.rememberedAfter svc.recorded w.defaults⟩ := by
      subst hcore
      cases c <;> rfl
    have hends := c.call_ends ticks sink hbatch' (w := w.recorded uses) rfl hcore'
    rwa [batchEnd_recorded] at hends
  asks := by
    have hasks := batchUses_asks (BatchCall.batch_made hbatch).2.2 ticks core
    rwa [hcore] at hasks ⊢

theorem batchCall_asks_nothing {c : BatchCall} {e : CallError} (hbatch : c.batch svc w.defaults = .error e) :
    svc.CallAsks ticks sink c.call w [] (.error (.failed e))
      ⟨w.engine, w.counter, c.rememberedRefused svc w.defaults⟩ := by
  refine .nothing (c.call_invalid ticks sink hbatch rfl) ?_ rfl
  intro uses
  have hbatch' : c.batch svc.recorded w.defaults = .error e := c.batch_recorded.trans hbatch
  have hends := c.call_invalid ticks sink hbatch' (w := w.recorded uses) rfl
  cases c <;> exact hends

theorem batchCall_asks (svc : Service σ) (ticks : Nat) (sink : Option (ProgressSink τ)) (c : BatchCall) (w : World σ τ) :
    ∃ asked result after, svc.CallAsks ticks sink c.call w asked result after := by
  cases hbatch : c.batch svc w.defaults with
  | error e => exact ⟨_, _, _, batchCall_asks_nothing hbatch⟩
  | ok batch => exact ⟨_, _, _, batchCall_asks_batch hbatch rfl⟩

/-- A score call asks what its batch asks, if its arguments pass. -/
theorem score_asks_batch {left right : PromptInput} {options : ScoreOptions} {lefts rights : List String}
    (hrequest : svc.scoreRequest left right options = .ok (lefts, rights, batch)) :
    svc.CallAsks ticks sink (.score left right options) w (svc.batchUses ticks batch w.core)
      ((resultOf (svc.batchEnd ticks batch w.core).1 (svc.scoresOf lefts.length)).map .scores)
      (svc.batchEnd ticks batch w.core).2 where
  ends := (score_ends hrequest rfl).view Answer.scores
  recorded := by
    intro uses
    have hrecorded : svc.recorded.scoreRequest left right options = .ok (lefts, rights, batch) := hrequest
    have hends : (svc.recorded.score ticks left right options sink).Ends (w.recorded uses) _ _ :=
      score_ends hrecorded rfl
    rw [w.core_recorded, batchEnd_recorded] at hends
    exact hends.view Answer.scores
  asks := batchUses_asks (scoreBatch_within (scoreRequest_eq_ok.mp hrequest).2) ticks w.core

theorem score_asks_nothing {left right : PromptInput} {options : ScoreOptions} {e : CallError}
    (hrequest : svc.scoreRequest left right options = .error e) :
    svc.CallAsks ticks sink (.score left right options) w [] (.error (.failed e)) w.core := by
  refine .nothing (score_invalid hrequest rfl).bind_error ?_ rfl
  intro uses
  have hrecorded : svc.recorded.scoreRequest left right options = .error e := hrequest
  exact (score_invalid hrecorded rfl).bind_error

theorem score_asks (svc : Service σ) (ticks : Nat) (sink : Option (ProgressSink τ)) (left right : PromptInput)
    (options : ScoreOptions) (w : World σ τ) :
    ∃ asked result after, svc.CallAsks ticks sink (.score left right options) w asked result after := by
  cases hrequest : svc.scoreRequest left right options with
  | error e => exact ⟨_, _, _, score_asks_nothing hrequest⟩
  | ok request =>
    obtain ⟨lefts, rights, batch⟩ := request
    exact ⟨_, _, _, score_asks_batch hrequest⟩

/-- A search asks what its course says. -/
theorem Course.callAsks {found : Except Halt (List (List BeamSequence))}
    (hroots : svc.searchRoots prompts params lora = .ok roots)
    (h : svc.Course ticks params w.core roots steps mid hs found after) :
    svc.CallAsks ticks sink (.beamSearch prompts params lora) w (svc.searchUses ticks params steps mid hs)
      (found.map .beams) after where
  ends := ((ends_iff_exists_course hroots).mpr ⟨steps, mid, hs, h⟩).view Answer.beams
  recorded uses := (h.recorded hroots uses).view Answer.beams
  asks := h.asks

theorem beamSearch_asks (svc : Service σ) (ticks : Nat) (sink : Option (ProgressSink τ)) (prompts : List Prompt)
    (params : BeamParams) (lora : Broadcast (Option LoraAdapter)) (w : World σ τ) :
    ∃ asked result after, svc.CallAsks ticks sink (.beamSearch prompts params lora) w asked result after := by
  cases hroots : svc.searchRoots prompts params lora with
  | error e =>
    have hrecorded : svc.recorded.searchRoots prompts params lora = .error e := hroots
    refine ⟨[], _, _, .nothing (beamSearch_invalid hroots rfl).bind_error ?_ rfl⟩
    intro uses
    exact (beamSearch_invalid hrecorded rfl).bind_error
  | ok roots =>
    have hends := (svc.beamSearch ticks prompts params lora sink).ends_outcome w
    obtain ⟨steps, mid, hs, hcourse⟩ := (ends_iff_exists_course hroots).mp hends
    exact ⟨_, _, _, hcourse.callAsks hroots⟩

/-- Whatever comes of a call, it asks nothing of its engine but to take requests under the next ids that are fit for
its model, and to work. -/
theorem exists_callAsks (svc : Service σ) (ticks : Nat) (sink : Option (ProgressSink τ)) (call : Call) (w : World σ τ) :
    ∃ asked result after, svc.CallAsks ticks sink call w asked result after := by
  cases call with
  | generate input options => exact svc.batchCall_asks ticks sink (.generate input options) w
  | encode input options => exact svc.batchCall_asks ticks sink (.encode input options) w
  | embed input options => exact svc.batchCall_asks ticks sink (.embed input options) w
  | classify input options => exact svc.batchCall_asks ticks sink (.classify input options) w
  | score left right options => exact svc.score_asks ticks sink left right options w
  | beamSearch prompts params lora => exact svc.beamSearch_asks ticks sink prompts params lora w

/-- What the record of a call shows when it ends is what the call asks. -/
theorem CallAsks.unique {call : Call} {asked uses more : List EngineUse} {result result' : Except Halt Answer}
    {after' : Core σ} (h : svc.CallAsks ticks sink call w asked result after)
    (hends : (svc.recorded.call ticks sink call).Ends (w.recorded uses) result' (after'.recorded (uses ++ more))) :
    result' = result ∧ after' = after ∧ more = asked := by
  obtain ⟨hresult, hcore⟩ := hends.unique (h.recorded uses)
  simp only [Core.recorded, Core.mk.injEq, Prod.mk.injEq, List.append_cancel_left_eq] at hcore
  obtain ⟨⟨hengine, hasked⟩, hcounter, hdefaults⟩ := hcore
  exact ⟨hresult, Core.ext hengine hcounter hdefaults, hasked⟩

end Service

end BatchInference
