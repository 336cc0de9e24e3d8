import BatchInference.Proofs.Batch.Validation
import BatchInference.Proofs.Engine.Contract

/-!
What the calls of a service preserve. A fact about the engine that every batch preserves is preserved by every
call, because nothing but the batches of a call touches the engine. Errors after which the fact may be lost are
left out by saying which errors are allowed.
-/

namespace BatchInference

variable {σ τ α β : Type}

/-- An activity came to an end, and if with an error then with one of those allowed. -/
def EndedAmong (allowed : CallError → Prop) : Except Halt α → Prop
  | .ok _ => True
  | .error (.failed e) => allowed e
  | .error .outOfTicks => False

namespace Run

/-- From an engine of which `I` holds, every end with a result or an allowed error leaves one of which it holds. -/
def Preserves (I : σ → Prop) (allowed : CallError → Prop) (act : Run σ τ α) : Prop :=
  ∀ w, I w.engine → EndedAmong allowed (act.outcome w).1 → I (act.outcome w).2.engine

variable {I : σ → Prop} {allowed : CallError → Prop} {act : Run σ τ α} {next : α → Run σ τ β}

theorem Preserves.bind (hact : act.Preserves I allowed) (hnext : ∀ a, (next a).Preserves I allowed) :
    (act >>= next).Preserves I allowed := by
  intro w hw hended
  have hw' := hact w hw
  simp only [outcome, bind_apply] at hended hw' ⊢
  cases hrun : act w with
  | ok a w₁ =>
    simp only [hrun] at hended hw' ⊢
    exact hnext a w₁ (hw' trivial) hended
  | error h w₁ =>
    simp only [hrun] at hended hw' ⊢
    cases h with
    | failed e => exact hw' hended
    | outOfTicks => exact hended.elim

theorem preserves_of_untouched (h : ∀ w, (act.outcome w).2.engine = w.engine) : act.Preserves I allowed := by
  intro w hw _
  rw [h w]
  exact hw

theorem preserves_pure (a : α) : (pure a : Run σ τ α).Preserves I allowed :=
  preserves_of_untouched fun _ => rfl

theorem preserves_check (checked : Except CallError α) : (check checked : Run σ τ α).Preserves I allowed := by
  apply preserves_of_untouched
  intro w
  cases checked <;> rfl

theorem preserves_log (level : LogLevel) (text : String) : (log level text : Run σ τ Unit).Preserves I allowed :=
  preserves_of_untouched fun _ => rfl

theorem preserves_logWhen (reason : Bool) (level : LogLevel) (text : String) :
    (logWhen reason level text : Run σ τ Unit).Preserves I allowed := by
  apply preserves_of_untouched
  intro w
  cases reason <;> rfl

theorem preserves_report (sink : ProgressSink τ) (e : ProgressEvent) :
    (report sink e : Run σ τ Unit).Preserves I allowed :=
  preserves_of_untouched fun _ => rfl

end Run

namespace Service

open Run

variable {I : σ → Prop} {allowed : CallError → Prop} {svc : Service σ}

theorem promptsOf_preserves (input : PromptInput) :
    (promptsOf input : Run σ τ _).Preserves I allowed :=
  (preserves_logWhen _ _ _).bind fun _ => preserves_check _

theorem guidanceOf_preserves (options : Option GuidedOptions) :
    (guidanceOf options : Run σ τ _).Preserves I allowed := by
  cases options with
  | none => exact preserves_pure _
  | some o =>
    refine (preserves_log _ _).bind fun _ => ?_
    exact (preserves_check _).bind fun _ => preserves_pure _

theorem paramsOf_preserves (params : Option (Broadcast SamplingParams)) :
    (svc.paramsOf params : Run σ τ _).Preserves I allowed := by
  apply preserves_of_untouched
  intro w
  obtain ⟨w', hw', hcore⟩ := svc.paramsOf_ends params (w := w) rfl
  rw [hw']
  exact congrArg Core.engine hcore

/-- A batch preserves what a refused submission preserves and what the work on an accepted one does. -/
theorem runBatch_preserves
    (hrefused : ∀ s requests reason, I s → (svc.engine.offerAll requests s).refusal = some reason →
      allowed (.engine (.reported reason)) → I (svc.engine.offerAll requests s).engine)
    (hworked : ∀ s requests ticks, I s → (svc.engine.offerAll requests s).refusal = none →
      EndedAmong allowed ((svc.engine.work ticks (svc.engine.offerAll requests s).engine).result ()) →
      I (svc.engine.work ticks (svc.engine.offerAll requests s).engine).engine)
    (ticks : Nat) (batch : Batch) (sink : ProgressSink τ) :
    (svc.runBatch ticks batch sink).Preserves I allowed := by
  intro w hw hended
  obtain ⟨w', hw', hcore⟩ := svc.runBatch_ends ticks batch sink (w := w) rfl
  rw [hw'] at hended ⊢
  rw [show w'.engine = _ from congrArg Core.engine hcore]
  cases hprepare : batch.prepare svc.model with
  | error err =>
    rw [batchEnd_of_prepare_error hprepare]
    exact hw
  | ok pending =>
    cases hrefusal : (svc.engine.offerAll (w.counter.number pending) w.engine).refusal with
    | some reason =>
      simp only [batchEnd, hprepare, World.core, hrefusal] at hended ⊢
      exact hrefused _ _ reason hw hrefusal hended
    | none =>
      rw [batchEnd_accepted hprepare hrefusal rfl] at hended ⊢
      apply hworked _ _ ticks hw hrefusal
      simp only [Work.result, World.core] at hended ⊢
      cases hhalt : (svc.engine.work ticks (svc.engine.offerAll (w.counter.number pending) w.engine).engine).halt with
      | none => trivial
      | some h =>
        rw [hhalt] at hended
        cases h with
        | failed e => exact hended
        | outOfTicks => exact hended

section Calls

variable (hbatch : ∀ (ticks : Nat) (batch : Batch) (sink : ProgressSink τ),
  (svc.runBatch ticks batch sink).Preserves I allowed)

include hbatch

theorem generate_preserves (ticks : Nat) (input : PromptInput) (options : GenerateOptions)
    (sink : Option (ProgressSink τ)) : (svc.generate ticks input options sink).Preserves I allowed := by
  refine (preserves_check _).bind fun _ => ?_
  refine (promptsOf_preserves _).bind fun _ => ?_
  refine (guidanceOf_preserves _).bind fun _ => ?_
  refine (paramsOf_preserves _).bind fun _ => ?_
  refine (preserves_check _).bind fun _ => ?_
  exact (hbatch _ _ _).bind fun _ => preserves_check _

theorem encode_preserves (ticks : Nat) (input : PromptInput) (options : EncodeOptions)
    (sink : Option (ProgressSink τ)) : (svc.encode ticks input options sink).Preserves I allowed := by
  refine (preserves_check _).bind fun _ => ?_
  refine (promptsOf_preserves _).bind fun _ => ?_
  refine (preserves_check _).bind fun _ => ?_
  exact (hbatch _ _ _).bind fun _ => preserves_check _

theorem scoreByVectors_preserves (ticks : Nat) (left right : List String) (options : ScoreOptions)
    (sink : Option (ProgressSink τ)) : (svc.scoreByVectors ticks left right options sink).Preserves I allowed := by
  refine (encode_preserves hbatch _ _ _ _).bind fun _ => ?_
  exact (preserves_log _ _).bind fun _ => preserves_check _

theorem scoreByPairs_preserves (ticks : Nat) (left right : List String) (options : ScoreOptions)
    (sink : Option (ProgressSink τ)) : (svc.scoreByPairs ticks left right options sink).Preserves I allowed := by
  refine (preserves_check _).bind fun _ => ?_
  refine (hbatch _ _ _).bind fun _ => ?_
  exact (preserves_check _).bind fun _ => preserves_check _

theorem score_preserves (ticks : Nat) (left right : PromptInput) (options : ScoreOptions)
    (sink : Option (ProgressSink τ)) : (svc.score ticks left right options sink).Preserves I allowed := by
  refine (preserves_check _).bind fun _ => ?_
  refine (preserves_check _).bind fun _ => ?_
  refine ((promptsOf_preserves _).bind fun _ => preserves_check _).bind fun left => ?_
  refine ((promptsOf_preserves _).bind fun _ => preserves_check _).bind fun right => ?_
  refine (preserves_check _).bind fun _ => ?_
  split
  · exact scoreByPairs_preserves hbatch ticks left right options sink
  · exact scoreByVectors_preserves hbatch ticks left right options sink

theorem beamSteps_preserves (ticks : Nat) (params : BeamParams) (rule : BeamRule) (sink : ProgressSink τ)
    (remaining step : Nat) (hs : List Hypotheses) :
    (svc.beamSteps ticks params rule sink remaining step hs).Preserves I allowed := by
  induction remaining generalizing step hs with
  | zero => exact preserves_pure hs
  | succ remaining ih =>
    unfold beamSteps
    dsimp only
    split
    · exact (preserves_log _ _).bind fun _ => preserves_pure hs
    · have hresults : (svc.beamResults (τ := τ) ticks params (hs.flatMap (·.active))).Preserves I allowed := by
        refine (hbatch _ _ _).bind fun _ => ?_
        refine (preserves_check _).bind fun _ => ?_
        exact (preserves_check _).bind fun _ => preserves_pure _
      refine hresults.bind fun _ => ?_
      refine (preserves_log _ _).bind fun _ => ?_
      exact (preserves_report _ _).bind fun _ => ih _ _

theorem beamSearch_preserves (ticks : Nat) (prompts : List Prompt) (params : BeamParams)
    (lora : Broadcast (Option LoraAdapter)) (sink : Option (ProgressSink τ)) :
    (svc.beamSearch ticks prompts params lora sink).Preserves I allowed := by
  refine (preserves_check _).bind fun _ => ?_
  refine (preserves_check _).bind fun _ => ?_
  refine (preserves_check _).bind fun _ => ?_
  refine (preserves_check _).bind fun _ => ?_
  refine (preserves_logWhen _ _ _).bind fun _ => ?_
  refine (preserves_report _ _).bind fun _ => ?_
  refine (beamSteps_preserves hbatch _ _ _ _ _ _ _).bind fun _ => ?_
  exact (preserves_report _ _).bind fun _ => preserves_pure _

/-- What every batch preserves is preserved by every call. -/
theorem call_preserves (ticks : Nat) (sink : Option (ProgressSink τ)) (call : Call) :
    (svc.call ticks sink call).Preserves I allowed := by
  cases call with
  | generate prompts options =>
    exact (generate_preserves hbatch _ _ _ _).bind fun _ => preserves_pure _
  | encode prompts options =>
    exact (encode_preserves hbatch _ _ _ _).bind fun _ => preserves_pure _
  | embed prompts options =>
    refine Preserves.bind ?_ fun _ => preserves_pure _
    refine (preserves_check _).bind fun _ => ?_
    exact (encode_preserves hbatch _ _ _ _).bind fun _ => preserves_pure _
  | classify prompts options =>
    refine Preserves.bind ?_ fun _ => preserves_pure _
    refine (preserves_check _).bind fun _ => ?_
    exact (encode_preserves hbatch _ _ _ _).bind fun _ => preserves_pure _
  | score left right options =>
    exact (score_preserves hbatch _ _ _ _ _).bind fun _ => preserves_pure _
  | beamSearch prompts params lora =>
    exact (beamSearch_preserves hbatch _ _ _ _ _).bind fun _ => preserves_pure _

end Calls

/-! What the promises of an engine come to over a whole call. -/

section Engines

variable {answers : Request → Update → Prop} {owes : σ → List Request → Prop}

/-- An engine that keeps what it accepted is idle again after every call on an idle engine, unless the call ends
with an error of the engine. -/
theorem call_preserves_idle (h : svc.engine.Keeps answers owes) (ticks : Nat) (sink : Option (ProgressSink τ))
    (call : Call) :
    (svc.call ticks sink call).Preserves (owes · []) fun e => ∀ reason, e ≠ .engine (.reported reason) := by
  apply call_preserves
  apply runBatch_preserves
  · intro s requests reason _ _ hreason
    exact absurd rfl (hreason reason)
  · intro s requests ticks hs hrefusal hended
    cases hhalt : (svc.engine.work ticks (svc.engine.offerAll requests s).engine).halt with
    | none =>
      obtain ⟨_, _, _, hidle⟩ := h.work_done (h.offerAll_accepted hs hrefusal) hhalt
      exact hidle
    | some halt =>
      rw [Work.result, hhalt] at hended
      rcases svc.engine.halt_work _ _ hhalt with rfl | ⟨reason, rfl⟩
      · exact hended.elim
      · exact absurd rfl (hended reason)

/-- Whatever comes of a call, an engine that keeps what it accepted goes on keeping it. -/
theorem call_preserves_owing (h : svc.engine.Keeps answers owes) (ticks : Nat) (sink : Option (ProgressSink τ))
    (call : Call) : (svc.call ticks sink call).Preserves (fun s => ∃ rs, owes s rs) fun _ => True := by
  apply call_preserves
  apply runBatch_preserves
  · rintro s requests _ ⟨rs, hs⟩ _ _
    exact h.offerAll hs requests
  · rintro s requests ticks ⟨rs, hs⟩ _ _
    obtain ⟨rs', hs'⟩ := h.offerAll hs requests
    obtain ⟨_, rest, _, _, hrest⟩ := h.work hs' ticks
    exact ⟨rest, hrest⟩

end Engines

end Service

end BatchInference
