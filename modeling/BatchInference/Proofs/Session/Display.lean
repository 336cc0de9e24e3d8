import BatchInference.Proofs.Batch.Display
import BatchInference.Proofs.Score.Ends
import BatchInference.Proofs.Session.Refusals
import BatchInference.Scripted.Engine

/-!
What a call reports that runs one batch. Its checks report nothing, so that a call is reported as its batch is: not at
all if the checks fail, and otherwise in one phase or two, each closed whatever comes of the call.
-/

namespace BatchInference

open Run

variable {σ τ : Type}

namespace Service

variable {svc : Service σ} {w : World σ τ} {s : σ} {c : IdCounter} {d : Option SamplingParams} {core after : Core σ}
  {ticks : Nat} {sink : ProgressSink τ}

theorem quiet_promptsOf (input : PromptInput) : (promptsOf input : Run σ τ (List Prompt)).Quiet :=
  (quiet_logWhen _ _ _).bind fun _ => quiet_check _

theorem promptsOf_ends (input : PromptInput) (hw : w.core = after) :
    (promptsOf input).Ends w (resultOf (.ok ()) fun _ => input.normalize) after := by
  cases hprompts : input.normalize with
  | ok prompts => exact promptsOf_ok hprompts hw
  | error e => exact promptsOf_error hprompts hw

theorem quiet_guidanceOf (options : Option GuidedOptions) :
    (guidanceOf options : Run σ τ (Option GuidedDecoding)).Quiet := by
  cases options with
  | none => exact quiet_pure none
  | some o => exact (quiet_log _ _).bind fun _ => (quiet_check _).bind fun _ => quiet_pure _

theorem guidanceOf_ends (options : Option GuidedOptions) (hw : w.core = after) :
    (guidanceOf options).Ends w (resultOf (.ok ()) fun _ => guidance options) after := by
  cases hguided : guidance options with
  | ok guided => exact guidanceOf_ok hguided hw
  | error e => exact guidanceOf_error hguided hw

theorem quiet_defaultParams (svc : Service σ) : (svc.defaultParams : Run σ τ SamplingParams).Quiet := by
  apply quiet_get.bind
  intro w
  cases w.defaults with
  | some p => exact quiet_pure p
  | none => exact (quiet_logWhen _ _ _).bind fun _ => (quiet_remember _).bind fun _ => quiet_pure _

theorem quiet_paramsOf (svc : Service σ) (params : Option (Broadcast SamplingParams)) :
    (svc.paramsOf params : Run σ τ (Broadcast SamplingParams)).Quiet := by
  cases params with
  | some ps => exact quiet_pure ps
  | none => exact (quiet_defaultParams svc).bind fun _ => quiet_pure _

theorem quiet_scoreTexts (svc : Service σ) (input : PromptInput) :
    (svc.scoreTexts input : Run σ τ (List String)).Quiet :=
  (quiet_promptsOf input).bind fun _ => quiet_check _

theorem scoreTexts_ends (svc : Service σ) (input : PromptInput) (hw : w.core = after) :
    (svc.scoreTexts input).Ends w (resultOf (.ok ()) fun _ => textsOf svc.tokenizer input) after := by
  cases htexts : textsOf svc.tokenizer input with
  | ok texts => exact scoreTexts_ok htexts hw
  | error e => exact scoreTexts_error htexts hw

/-- What is reported on a batch, if it passes its checks. -/
def batchShown (svc : Service σ) (ticks : Nat) (core : Core σ) (batch : Batch) : List ProgressEvent :=
  shownAfter (batch.prepare svc.model) fun pending => (svc.pendingPhases ticks pending core).flatMap (·.events)

theorem generate_shows (svc : Service σ) (ticks : Nat) (input : PromptInput) (options : GenerateOptions)
    (sink : ProgressSink τ) (hw : w.core = ⟨s, c, d⟩) :
    (svc.generate ticks input options (some sink)).Shows sink w
      (shownAfter (svc.generateBatch d input options) (svc.batchShown ticks ⟨s, c, d⟩)) := by
  refine (quiet_check _).checked_shows (ends_check _ hw) fun _ _ w₁ h₁ => ?_
  refine (quiet_promptsOf _).checked_shows (promptsOf_ends _ h₁) fun prompts _ w₂ h₂ => ?_
  refine (quiet_guidanceOf _).checked_shows (guidanceOf_ends _ h₂) fun guided _ w₃ h₃ => ?_
  refine (quiet_paramsOf svc _).bind_shows (svc.paramsOf_ends _ h₃) fun w₄ h₄ => ?_
  refine (quiet_check _).checked_shows (ends_check _ h₄) fun truncation _ w₅ h₅ => ?_
  exact (svc.runBatch_shows ticks _ sink h₅).before_quiet fun _ => quiet_check _

theorem encode_shows (svc : Service σ) (ticks : Nat) (input : PromptInput) (options : EncodeOptions)
    (sink : ProgressSink τ) (hw : w.core = core) :
    (svc.encode ticks input options (some sink)).Shows sink w
      (shownAfter (svc.encodeBatch input options) (svc.batchShown ticks core)) := by
  refine (quiet_check _).checked_shows (ends_check _ hw) fun _ _ w₁ h₁ => ?_
  refine (quiet_promptsOf _).checked_shows (promptsOf_ends _ h₁) fun prompts _ w₂ h₂ => ?_
  refine (quiet_check _).checked_shows (ends_check _ h₂) fun truncation _ w₃ h₃ => ?_
  exact (svc.runBatch_shows ticks _ sink h₃).before_quiet fun _ => quiet_check _

theorem scoreByVectors_shows {lefts rights : List String} {options : ScoreOptions}
    (hmodel : svc.model.isCrossEncoder = false) (hw : w.core = core) :
    (svc.scoreByVectors ticks lefts rights options (some sink)).Shows sink w
      (shownAfter (svc.scoreBatch options lefts rights) (svc.batchShown ticks core)) := by
  simp only [scoreBatch, hmodel, Bool.false_eq_true, if_false]
  exact (svc.encode_shows ticks _ _ sink hw).before_quiet fun _ => (quiet_log _ _).bind fun _ => quiet_check _

theorem scoreByPairs_shows {lefts rights : List String} {options : ScoreOptions}
    (hmodel : svc.model.isCrossEncoder = true) (hw : w.core = core) :
    (svc.scoreByPairs ticks lefts rights options (some sink)).Shows sink w
      (shownAfter (svc.scoreBatch options lefts rights) (svc.batchShown ticks core)) := by
  simp only [scoreBatch, hmodel, if_true]
  refine (quiet_check _).checked_shows (ends_check _ hw) fun truncation _ w₁ h₁ => ?_
  exact (svc.runBatch_shows ticks _ sink h₁).before_quiet fun _ => (quiet_check _).bind fun _ => quiet_check _

theorem score_shows (svc : Service σ) (ticks : Nat) (left right : PromptInput) (options : ScoreOptions)
    (sink : ProgressSink τ) (hw : w.core = core) :
    (svc.score ticks left right options (some sink)).Shows sink w
      (shownAfter (svc.scoreRequest left right options) fun request => svc.batchShown ticks core request.2.2) := by
  unfold scoreRequest scoreSides
  simp only [bind_assoc, pure_bind]
  refine (quiet_check _).checked_shows (ends_check _ hw) fun _ _ w₁ h₁ => ?_
  refine (quiet_check _).checked_shows (ends_check _ h₁) fun _ _ w₂ h₂ => ?_
  refine (quiet_scoreTexts svc _).checked_shows (scoreTexts_ends svc _ h₂) fun lefts _ w₃ h₃ => ?_
  refine (quiet_scoreTexts svc _).checked_shows (scoreTexts_ends svc _ h₃) fun rights _ w₄ h₄ => ?_
  refine (quiet_check _).checked_shows (ends_check _ h₄) fun _ _ w₅ h₅ => ?_
  rw [shownAfter_bind]
  split
  case isTrue hmodel => exact scoreByPairs_shows hmodel h₅
  case isFalse hmodel => exact scoreByVectors_shows (eq_false_of_ne_true hmodel) h₅

end Service

/-- The requests of a call that runs one batch, once its arguments have passed. A search runs a batch for each step. -/
def Call.requests (svc : Service σ) (d : Option SamplingParams) : Call → Option (Except CallError (List PendingRequest))
  | .generate input options => some ((BatchCall.generate input options).validate svc d)
  | .encode input options => some ((BatchCall.encode input options).validate svc d)
  | .embed input options => some ((BatchCall.embed input options).validate svc d)
  | .classify input options => some ((BatchCall.classify input options).validate svc d)
  | .score left right options => some do
    let (_, _, batch) ← svc.scoreRequest left right options
    batch.prepare svc.model
  | .beamSearch .. => none

namespace Service

variable {svc : Service σ} {w : World σ τ} {core : Core σ} {ticks : Nat} {call : Call} {e : CallError}
  {checked : Except CallError (List PendingRequest)}

/-- A call that runs one batch reports the phases of its batch, if its arguments pass. -/
theorem call_shows (ticks : Nat) (sink : ProgressSink τ) (h : call.requests svc w.defaults = some checked) :
    (svc.call ticks (some sink) call).Shows sink w
      (shownAfter checked fun pending => (svc.pendingPhases ticks pending w.core).flatMap (·.events)) := by
  cases call with
  | generate input options =>
    cases h
    rw [BatchCall.validate, shownAfter_bind]
    exact (svc.generate_shows ticks input options sink rfl).before_quiet fun _ => quiet_pure _
  | encode input options =>
    cases h
    rw [BatchCall.validate, shownAfter_bind]
    exact (svc.encode_shows ticks input options sink rfl).before_quiet fun _ => quiet_pure _
  | embed input options | classify input options =>
    cases h
    rw [BatchCall.validate, shownAfter_bind]
    refine Shows.before_quiet ?_ fun _ => quiet_pure _
    refine (quiet_check _).checked_shows (ends_check _ rfl) fun _ _ w₁ h₁ => ?_
    exact (svc.encode_shows ticks input options sink h₁).before_quiet fun _ => quiet_pure _
  | score left right options =>
    cases h
    rw [shownAfter_bind]
    exact (svc.score_shows ticks left right options sink rfl).before_quiet fun _ => quiet_pure _
  | beamSearch prompts params lora => cases h

/-- A call whose arguments do not pass does nothing else. -/
theorem call_declines (sink : Option (ProgressSink τ)) (h : call.requests svc w.defaults = some (.error e)) :
    (svc.call ticks sink call).Declines w e := by
  cases call with
  | generate | encode | embed | classify => exact BatchCall.declines_of_validate_error (Option.some.inj h)
  | score left right options =>
    rcases bind_eq_error.mp (Option.some.inj h) with hrequest | ⟨⟨lefts, rights, batch⟩, hrequest, hprepare⟩
    · exact ⟨_, (score_invalid hrequest rfl).bind_error⟩
    · have hends : (svc.score ticks left right options sink).Ends w _ _ := score_ends hrequest rfl
      rw [batchEnd_of_prepare_error hprepare] at hends
      exact ⟨_, hends.bind_error⟩
  | beamSearch prompts params lora => cases h

/-- The phases of a call's batch. There are none if the arguments do not pass; otherwise the first has as many units
as the batch has requests and is advanced once for each request that the engine takes. If it takes them all there is
a second one, which has as many units as the engine then has unfinished requests and is advanced by the share of
every finished update, in the order in which the engine reports them until it is idle or a step fails. -/
inductive Phases (svc : Service σ) (ticks : Nat) (core : Core σ) :
    Except CallError (List PendingRequest) → List ProgressPhase → Prop
  | invalid {e : CallError} : Phases svc ticks core (.error e) []
  | refused {pending : List PendingRequest} {offering : Offering σ} {reason : String} {submission : ProgressPhase}
      (offered : svc.engine.offerAll (core.counter.number pending) core.engine = offering)
      (refusal : offering.refusal = some reason) (fewer : offering.accepted < pending.length)
      (total : submission.total = pending.length)
      (advances : submission.advances = List.replicate offering.accepted 1) :
      Phases svc ticks core (.ok pending) [submission]
  | accepted {pending : List PendingRequest} {offering : Offering σ} {submission drain : ProgressPhase}
      (offered : svc.engine.offerAll (core.counter.number pending) core.engine = offering)
      (refusal : offering.refusal = none) (total : submission.total = pending.length)
      (advances : submission.advances = List.replicate pending.length 1)
      (unfinished : drain.total = svc.engine.numUnfinished offering.engine)
      (shares : drain.advances = (svc.engine.work ticks offering.engine).finished.map (·.share)) :
      Phases svc ticks core (.ok pending) [submission, drain]

theorem pendingPhases_phases (svc : Service σ) (ticks : Nat) (pending : List PendingRequest) (core : Core σ) :
    svc.Phases ticks core (.ok pending) (svc.pendingPhases ticks pending core) := by
  cases hrefusal : (svc.engine.offerAll (core.counter.number pending) core.engine).refusal with
  | some reason =>
    have hfewer := Engine.accepted_lt_of_refused hrefusal
    rw [IdCounter.length_number] at hfewer
    simp only [pendingPhases, hrefusal]
    exact .refused rfl hrefusal hfewer rfl (ProgressPhase.advances_submission _ _)
  | none =>
    have haccepted := Engine.accepted_eq_length hrefusal
    rw [IdCounter.length_number] at haccepted
    simp only [pendingPhases, hrefusal, haccepted]
    exact .accepted rfl hrefusal rfl (ProgressPhase.advances_submission _ _) rfl (ProgressPhase.advances_drain _ _)

/-- Whatever the engine does, a call that runs one batch reports in the phases of its batch and in nothing else: each
is started, then advanced, and closed before the call ends. Every display is told the same. -/
theorem batch_call_reported_in_phases (svc : Service σ) (ticks : Nat)
    (h : call.requests svc core.defaults = some checked) :
    ∃ phases, svc.Phases ticks core checked phases ∧
      ∀ {τ : Type} (sink : ProgressSink τ) (w : World σ τ), w.core = core →
        (svc.call ticks (some sink) call).Shows sink w (phases.flatMap (·.events)) ∧
        ∀ e, checked = .error e → (svc.call ticks (some sink) call).Declines w e := by
  cases checked with
  | error e =>
    refine ⟨[], .invalid, ?_⟩
    rintro τ sink w rfl
    refine ⟨call_shows ticks sink h, ?_⟩
    rintro _ ⟨⟩
    exact call_declines (some sink) h
  | ok pending =>
    refine ⟨_, svc.pendingPhases_phases ticks pending core, ?_⟩
    rintro τ sink w rfl
    refine ⟨call_shows ticks sink h, ?_⟩
    rintro _ ⟨⟩

/-- A service whose engine fails in its second step, when it still works on every second request. -/
def failingService : Service Scripted.State where
  engine := (
    { answers := { offsets := [], abortLength := some 0 }
      alphabet := {}
      forward := true
      ticks := [1, 2]
      failing := [2] } : Scripted.Plan).engine
  tokenizer := Scripted.Alphabet.tokenizer {}
  logger := none

def watchedWorld : World Scripted.State (List ProgressEvent) where
  engine := {}
  counter := ⟨0⟩
  sink := []

/-- A call for two completions of each of two prompts. -/
def twiceTwo : Call :=
  .generate (.batch [.ofText "a", .ofText "b"]) { params := some (.one { n := 2, maxTokens := some 1 }) }

/-- The call whose engine fails reports in two phases, the second of which is closed although a request is lost. -/
theorem twiceTwo_reported : ∃ pending phases,
    twiceTwo.requests failingService watchedWorld.defaults = some (.ok pending) ∧ pending.length = 2 ∧
    failingService.Phases 9 watchedWorld.core (.ok pending) phases ∧
    ((failingService.call 9 (some ProgressSink.recorder) twiceTwo).outcome watchedWorld).2.sink =
      phases.flatMap (·.events) := by
  obtain ⟨pending, hpending, hlength⟩ : ∃ pending,
      twiceTwo.requests failingService watchedWorld.core.defaults = some (.ok pending) ∧ pending.length = 2 :=
    ⟨_, rfl, rfl⟩
  obtain ⟨phases, hphases, hshown⟩ := batch_call_reported_in_phases failingService 9 hpending
  have hrecorded := (hshown .recorder watchedWorld rfl).1
  rw [Shows, ProgressSink.receiveAll_recorder] at hrecorded
  exact ⟨pending, phases, hpending, hlength, hphases, hrecorded⟩

example : ((failingService.call 9 (some ProgressSink.recorder) twiceTwo).outcome watchedWorld).2.sink =
    [.start "Adding requests" 2, .advance 1, .advance 1, .close, .start "Processed prompts" 2,
      .status "est. speed input: 0.00 toks/s, output: 0.00 toks/s",
      .status "est. speed input: # toks/s, output: 0.00 toks/s", .advance 2, .close] := by
  decide +kernel

end Service

end BatchInference
