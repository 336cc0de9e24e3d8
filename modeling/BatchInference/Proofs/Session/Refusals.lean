import BatchInference.Proofs.Batch.Recording
import BatchInference.Proofs.Beam.Pairing

/-!
Refusals. A call is refused for what its caller asked of it, and that is found out by its checks alone: no id has
been drawn by then, and the engine has neither been offered a request nor been stepped. A beam search is refused
before its first step or not at all, because the batches of its steps pass whatever the beams are.
-/

namespace BatchInference

open Run

variable {σ τ α : Type}

/-- Run in a world, the activity ends with this error and leaves the engine and the counter as they are. -/
def Run.Declines (act : Run σ τ α) (w : World σ τ) (e : CallError) : Prop :=
  ∃ d, act.Ends w (.error (.failed e)) ⟨w.engine, w.counter, d⟩

theorem Run.Declines.untouched {act : Run σ τ α} {w : World σ τ} {e : CallError} {result : Except Halt α}
    {after : Core σ} (h : act.Declines w e) (hends : act.Ends w result after) :
    after.engine = w.engine ∧ after.counter = w.counter := by
  obtain ⟨d, hd⟩ := h
  obtain ⟨_, rfl⟩ := hd.unique hends
  exact ⟨rfl, rfl⟩

namespace Service

variable {svc : Service σ} {w : World σ τ} {core after : Core σ} {ticks : Nat} {batch : Batch} {e : CallError}
  {params : BeamParams} {beams : List BeamSequence} {hs : List Hypotheses}

/-- A batch is refused by its checks or not at all: what the engine makes of it is no refusal. -/
theorem prepare_of_refused (h : svc.batchEnd ticks batch core = (.error (.failed e), after))
    (he : e.isRefusal = true) : batch.prepare svc.model = .error e := by
  cases hprepare : batch.prepare svc.model with
  | error err =>
    simp only [batchEnd_of_prepare_error hprepare, Prod.mk.injEq, Except.error.injEq, Halt.failed.injEq] at h
    rw [h.1]
  | ok pending =>
    exfalso
    cases hrefusal : (svc.engine.offerAll (core.counter.number pending) core.engine).refusal with
    | some reason =>
      simp only [batchEnd, hprepare, hrefusal, Prod.mk.injEq, Except.error.injEq, Halt.failed.injEq] at h
      rw [← h.1] at he
      cases he
    | none =>
      rw [batchEnd_accepted hprepare hrefusal rfl] at h
      have hresult := congrArg Prod.fst h
      simp only [Work.result] at hresult
      cases hhalt : (svc.engine.work ticks
          (svc.engine.offerAll (core.counter.number pending) core.engine).engine).halt with
      | none => simp [hhalt] at hresult
      | some halt =>
        simp only [hhalt, Except.error.injEq] at hresult
        subst hresult
        rcases svc.engine.halt_work _ _ hhalt with hticks | ⟨reason, hreason⟩
        · cases hticks
        · cases hreason
          cases he

theorem beamChecks_not_refusal {us : List Update} (h : beamChecks beams us = .error e) : e.isRefusal = false := by
  rcases bind_eq_error.mp h with hgenerations | ⟨results, _, h⟩
  · obtain ⟨u, _, hu⟩ := exists_of_mapM_eq_error hgenerations
    cases u <;> cases hu
    rfl
  · rcases bind_eq_error.mp h with hlength | ⟨_, _, hpure⟩
    · obtain ⟨_, rfl⟩ := require_eq_error.mp hlength
      rfl
    · cases hpure

/-- A step of a search whose parameters passed is not refused. -/
theorem stepEnd_not_refusal (hparams : params.verify = .ok ())
    (h : svc.stepEnd ticks params beams core = (.error (.failed e), after)) : e.isRefusal = false := by
  rcases resultOf_eq_failed.mp (congrArg Prod.fst h) with hbatch | ⟨us, _, hchecks⟩
  · by_contra he
    have hrefused := prepare_of_refused (Prod.ext hbatch rfl) (eq_true_of_ne_false he)
    rw [prepare_beamBatch.mpr ⟨BeamParams.verify_samplingParams hparams, rfl⟩] at hrefused
    cases hrefused
  · exact beamChecks_not_refusal hchecks

variable {prompts : List Prompt} {lora : Broadcast (Option LoraAdapter)} {sink : Option (ProgressSink τ)}

/-- A search is refused by the checks of its arguments or not at all. -/
theorem searchRoots_of_refused
    (h : (svc.beamSearch ticks prompts params lora sink).Ends w (.error (.failed e)) after)
    (he : e.isRefusal = true) : svc.searchRoots prompts params lora = .error e := by
  cases hroots : svc.searchRoots prompts params lora with
  | error err =>
    have hunique := (h.unique (beamSearch_invalid hroots rfl)).1
    cases hunique
    rfl
  | ok roots =>
    exfalso
    obtain ⟨_, _, hrest⟩ := bind_eq_ok.mp hroots
    obtain ⟨_, hparams, _⟩ := bind_eq_ok.mp hrest
    obtain ⟨steps, left, mid, hs, result, _, _, hstops, hfound⟩ := (beamSearch_ends_iff hroots rfl).mp h
    cases hstops with
    | outOfSteps => cases hfound
    | outOfBeams => cases hfound
    | failed _ _ hstep =>
      cases hfound
      rw [stepEnd_not_refusal hparams hstep] at he
      cases he

end Service

namespace BatchCall

variable {c : BatchCall} {svc : Service σ} {w : World σ τ} {after : Core σ} {ticks : Nat}
  {sink : Option (ProgressSink τ)} {e : CallError}

theorem answer_not_refusal {us : List Update} (h : c.answer us = .error e) : e.isRefusal = false := by
  cases c with
  | generate input options =>
    obtain ⟨u, _, hu⟩ := exists_of_mapM_eq_error (map_eq_error.mp h)
    cases u <;> cases hu
    rfl
  | encode input options | embed input options | classify input options =>
    obtain ⟨u, _, hu⟩ := exists_of_mapM_eq_error (map_eq_error.mp h)
    cases u <;> cases hu
    rfl

/-- A call that fails its checks does nothing else. -/
theorem declines_of_validate_error (h : c.validate svc w.defaults = .error e) :
    (svc.call ticks sink c.call).Declines w e := by
  rcases bind_eq_error.mp h with hbatch | ⟨batch, hbatch, hprepare⟩
  · exact ⟨_, call_invalid ticks sink hbatch rfl⟩
  · have hends := call_ends ticks sink hbatch (w := w) rfl rfl
    rw [Service.batchEnd_of_prepare_error hprepare] at hends
    exact ⟨_, hends⟩

/-- A call is refused by its checks or not at all. -/
theorem validate_of_refused (h : (svc.call ticks sink c.call).Ends w (.error (.failed e)) after)
    (he : e.isRefusal = true) : c.validate svc w.defaults = .error e := by
  cases hbatch : c.batch svc w.defaults with
  | error err =>
    cases (h.unique (call_invalid ticks sink hbatch rfl)).1
    exact bind_eq_error.mpr (.inl hbatch)
  | ok batch =>
    have hresult := (h.unique (call_ends ticks sink hbatch rfl rfl)).1
    rcases resultOf_eq_failed.mp hresult.symm with hfailed | ⟨us, _, hanswer⟩
    · exact bind_eq_error.mpr (.inr ⟨batch, hbatch, Service.prepare_of_refused (Prod.ext hfailed rfl) he⟩)
    · rw [answer_not_refusal hanswer] at he
      cases he

/-- Keeping a record of the engine's uses changes nothing about the checks. -/
theorem validate_recorded {d : Option SamplingParams} : c.validate svc.recorded d = c.validate svc d := by
  cases c <;> rfl

theorem declines_of_refused (h : (svc.call ticks sink c.call).Ends w (.error (.failed e)) after)
    (he : e.isRefusal = true) :
    (svc.call ticks sink c.call).Declines w e ∧
      ∀ uses, (svc.recorded.call ticks sink c.call).Declines (w.recorded uses) e := by
  have hvalidate := validate_of_refused h he
  refine ⟨declines_of_validate_error hvalidate, ?_⟩
  intro uses
  exact declines_of_validate_error (validate_recorded.trans hvalidate)

end BatchCall

namespace Service

theorem search_declines_of_refused {svc : Service σ} {w : World σ τ} {after : Core σ} {ticks : Nat}
    {sink : Option (ProgressSink τ)} {prompts : List Prompt} {params : BeamParams}
    {lora : Broadcast (Option LoraAdapter)} {e : CallError}
    (h : (svc.call ticks sink (.beamSearch prompts params lora)).Ends w (.error (.failed e)) after)
    (he : e.isRefusal = true) :
    svc.searchRoots prompts params lora = .error e ∧
      (svc.call ticks sink (.beamSearch prompts params lora)).Declines w e ∧
      ∀ uses, (svc.recorded.call ticks sink (.beamSearch prompts params lora)).Declines (w.recorded uses) e := by
  have hroots := searchRoots_of_refused h.of_view_error he
  have hrecorded : svc.recorded.searchRoots prompts params lora = .error e := hroots
  exact ⟨hroots, ⟨_, (beamSearch_invalid hroots rfl).bind_error⟩,
    fun uses => ⟨_, (beamSearch_invalid hrecorded rfl).bind_error⟩⟩

/-- A generate, encode, embed or classify call or a beam search that is refused has drawn no id and asked nothing of
the engine, which is left as it is. Of a beam search, only the checks before its first step can refuse it: the
batch of a step passes whenever the parameters of the search do. -/
theorem refusal_leaves_no_trace (svc : Service σ) :
    (∀ {τ : Type} {ticks : Nat} {sink : Option (ProgressSink τ)} {call : Call} {w : World σ τ} {e : CallError}
      {after : Core σ}, (∀ left right options, call ≠ .score left right options) →
      (svc.call ticks sink call).Ends w (.error (.failed e)) after → e.isRefusal = true →
        after.engine = w.engine ∧ after.counter = w.counter ∧
        (∀ uses, (svc.recorded.call ticks sink call).Declines (w.recorded uses) e) ∧
        ∀ prompts params lora, call = .beamSearch prompts params lora →
          svc.searchRoots prompts params lora = .error e) ∧
    ∀ params beams, params.verify = .ok () →
      (beamBatch params beams).prepare svc.model = .ok (beams.map (beamRequest params)) := by
  constructor
  · intro τ ticks sink call w e after hcall h he
    have hbatch (c : BatchCall) (hc : c.call = call) : after.engine = w.engine ∧ after.counter = w.counter ∧
        (∀ uses, (svc.recorded.call ticks sink call).Declines (w.recorded uses) e) ∧
        ∀ prompts params lora, call = .beamSearch prompts params lora →
          svc.searchRoots prompts params lora = .error e := by
      subst hc
      obtain ⟨hdeclines, hrecorded⟩ := BatchCall.declines_of_refused h he
      obtain ⟨hengine, hcounter⟩ := hdeclines.untouched h
      refine ⟨hengine, hcounter, hrecorded, ?_⟩
      intro prompts params lora hsearch
      cases c <;> cases hsearch
    cases call with
    | generate input options => exact hbatch (.generate input options) rfl
    | encode input options => exact hbatch (.encode input options) rfl
    | embed input options => exact hbatch (.embed input options) rfl
    | classify input options => exact hbatch (.classify input options) rfl
    | score left right options => exact absurd rfl (hcall left right options)
    | beamSearch prompts params lora =>
      obtain ⟨hroots, hdeclines, hrecorded⟩ := search_declines_of_refused h he
      obtain ⟨hengine, hcounter⟩ := hdeclines.untouched h
      refine ⟨hengine, hcounter, hrecorded, ?_⟩
      rintro _ _ _ ⟨⟩
      exact hroots
  · intro params beams hparams
    exact prepare_beamBatch.mpr ⟨BeamParams.verify_samplingParams hparams, rfl⟩

/-- A search of which the second prompt has no tokens. -/
def embedsSearch : Call := .beamSearch [.ofTokens [10], .embeds []] oneToken (.one none)

/-- A search that is refused for its second prompt draws no id for the first. -/
theorem embedsSearch_leaves_no_trace : ∃ after,
    (promptService.call 1 none embedsSearch).Ends lastIdWorld (.error (.failed (.invalidInput .beamEmbeds))) after ∧
    after.engine = lastIdWorld.engine ∧ after.counter = lastIdWorld.counter ∧
    (∀ uses, (promptService.recorded.call 1 none embedsSearch).Declines (lastIdWorld.recorded uses)
      (.invalidInput .beamEmbeds)) ∧
    promptService.searchRoots [.ofTokens [10], .embeds []] oneToken (.one none) =
      .error (.invalidInput .beamEmbeds) ∧
    ∀ beams, (beamBatch oneToken beams).prepare promptService.model = .ok (beams.map (beamRequest oneToken)) := by
  obtain ⟨hrefusals, hsteps⟩ := refusal_leaves_no_trace promptService
  have hends : (promptService.call 1 none embedsSearch).Ends lastIdWorld
      (.error (.failed (.invalidInput .beamEmbeds))) lastIdWorld.core := ⟨_, rfl, rfl⟩
  have hsearch : ∀ left right options, embedsSearch ≠ .score left right options := by
    intro left right options h
    cases h
  obtain ⟨hengine, hcounter, hrecorded, hroots⟩ := hrefusals hsearch hends rfl
  exact ⟨_, hends, hengine, hcounter, hrecorded, hroots _ _ _ rfl, fun beams => hsteps oneToken beams rfl⟩

end Service

end BatchInference
