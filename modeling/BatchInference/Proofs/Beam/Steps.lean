import BatchInference.Proofs.Batch.Answers
import BatchInference.Proofs.Beam.Requests

/-!
A beam search as a sequence of completed steps. A step is completed if the engine served its batch and handed back
as many generations as there are beams; a search is a number of completed steps, after which it stops because no
step or no beam is left, or because a step fails.
-/

namespace BatchInference

open Run

/-- What a step makes of the updates on its batch. -/
def beamChecks (beams : List BeamSequence) (us : List Update) : Except CallError (List Generation) := do
  let results ← us.mapM (·.toGeneration)
  require (results.length = beams.length) (.engine (.beamResults results.length beams.length))
  return results

theorem beamChecks_eq_ok {beams : List BeamSequence} {us : List Update} {results : List Generation} :
    beamChecks beams us = .ok results ↔ us = results.map .generation ∧ results.length = beams.length := by
  simp only [beamChecks, bind_eq_ok, Update.mapM_toGeneration_eq_ok, require_eq_ok, decide_eq_true_eq, pure,
    Except.pure, Except.ok.injEq]
  constructor
  · rintro ⟨gs, hus, _, hlength, rfl⟩
    exact ⟨hus, hlength⟩
  · rintro ⟨hus, hlength⟩
    exact ⟨results, hus, (), hlength, rfl⟩

/-- A completed step: the core and the searches it found, and the results it handed back to their beams. -/
structure SearchStep (σ : Type) where
  core : Core σ
  hypotheses : List Hypotheses
  results : List Generation

namespace SearchStep

variable {σ : Type}

/-- The beams of all prompts, in order. -/
def beams (s : SearchStep σ) : List BeamSequence := s.hypotheses.flatMap (·.active)

/-- The requests of a step, under the ids that were drawn for them. -/
def requests (s : SearchStep σ) (params : BeamParams) : List Request :=
  s.core.counter.number (s.beams.map (beamRequest params))

def work (s : SearchStep σ) (svc : Service σ) (ticks : Nat) (params : BeamParams) : Work σ :=
  svc.engine.work ticks (svc.engine.offerAll (s.requests params) s.core.engine).engine

end SearchStep

namespace Service

variable {σ τ : Type}

/-- What a step for given beams comes to, from the core it finds. -/
def stepEnd (svc : Service σ) (ticks : Nat) (params : BeamParams) (beams : List BeamSequence) (core : Core σ) :
    Except Halt (List Generation) × Core σ :=
  (resultOf (svc.batchEnd ticks (beamBatch params beams) core).1 (beamChecks beams),
    (svc.batchEnd ticks (beamBatch params beams) core).2)

/-- The searches of a call at their start, once its arguments have passed. -/
def searchRoots (svc : Service σ) (prompts : List Prompt) (params : BeamParams)
    (lora : Broadcast (Option LoraAdapter)) : Except CallError (List Hypotheses) := do
  svc.requireGeneration
  params.verify
  let loras ← lora.resolve "lora_request" prompts.length
  let roots ← (prompts.zip loras).mapM fun (prompt, lora) => BeamSequence.ofPrompt svc.tokenizer prompt lora
  return roots.map fun root => ⟨[root], []⟩

/-- Completed steps in order, from the core and the searches before them to those after them. -/
inductive Steps (svc : Service σ) (ticks : Nat) (params : BeamParams) :
    List (SearchStep σ) → Core σ → List Hypotheses → Core σ → List Hypotheses → Prop
  | none {core : Core σ} {hs : List Hypotheses} : Steps svc ticks params [] core hs core hs
  | cons {steps : List (SearchStep σ)} {core mid after : Core σ} {hs hs' : List Hypotheses}
      {results : List Generation} (hbusy : hs.flatMap (·.active) ≠ [])
      (hstep : svc.stepEnd ticks params (hs.flatMap (·.active)) core = (.ok results, mid))
      (rest : Steps svc ticks params steps mid (Hypotheses.advanceAll (svc.beamRule params) hs results) after hs') :
      Steps svc ticks params (⟨core, hs, results⟩ :: steps) core hs after hs'

/-- How a search stops that may take so many more steps. -/
inductive Stops (svc : Service σ) (ticks : Nat) (params : BeamParams) (left : Nat) (core : Core σ)
    (hs : List Hypotheses) : Except Halt (List Hypotheses) → Core σ → Prop
  | outOfSteps (h : left = 0) : Stops svc ticks params left core hs (.ok hs) core
  | outOfBeams (h : hs.flatMap (·.active) = []) : Stops svc ticks params left core hs (.ok hs) core
  | failed (hleft : 0 < left) (hbusy : hs.flatMap (·.active) ≠ []) {halt : Halt} {after : Core σ}
      (h : svc.stepEnd ticks params (hs.flatMap (·.active)) core = (.error halt, after)) :
      Stops svc ticks params left core hs (.error halt) after

variable {svc : Service σ} {w : World σ τ} {core mid after : Core σ} {ticks : Nat} {params : BeamParams}
  {beams : List BeamSequence} {hs hs' : List Hypotheses} {result : Except Halt (List Hypotheses)}

theorem beamResults_ends (svc : Service σ) (ticks : Nat) (params : BeamParams) (beams : List BeamSequence)
    (hw : w.core = core) :
    (svc.beamResults ticks params beams).Ends w (svc.stepEnd ticks params beams core).1
      (svc.stepEnd ticks params beams core).2 := by
  have hbatch := svc.runBatch_ends ticks (beamBatch params beams) (.silent τ) hw
  unfold stepEnd
  cases hend : (svc.batchEnd ticks (beamBatch params beams) core).1 with
  | error h =>
    rw [hend] at hbatch
    exact hbatch.bind_error
  | ok us =>
    rw [hend] at hbatch
    apply hbatch.bind
    intro w₁ h₁
    simp only [resultOf, beamChecks]
    cases hresults : us.mapM (·.toGeneration) with
    | error err => exact (ends_check_error rfl h₁).bind_error
    | ok results =>
      apply (ends_check_ok rfl h₁).bind
      intro w₂ h₂
      cases hlength : require (results.length = beams.length)
          (.engine (.beamResults results.length beams.length)) with
      | error err =>
        simp only [bind, Except.bind, hlength]
        exact (ends_check_error rfl h₂).bind_error
      | ok u =>
        simp only [bind, Except.bind, hlength]
        exact (ends_check_ok rfl h₂).bind fun w₃ h₃ => ends_pure results h₃

/-- A step that is completed had its requests accepted and worked on until the engine was idle, and the results are
the finished updates in the order of their ids, as many as there are beams. -/
theorem exists_of_stepEnd {s : SearchStep σ} (h : svc.stepEnd ticks params s.beams s.core = (.ok s.results, after)) :
    (svc.engine.offerAll (s.requests params) s.core.engine).refusal = none ∧
      (s.work svc ticks params).halt = none ∧
      Update.sorted (s.work svc ticks params).finished = s.results.map .generation ∧
      s.results.length = s.beams.length ∧ after.counter = s.core.counter.skip s.beams.length := by
  obtain ⟨us, hus, hchecks⟩ := resultOf_eq_ok.mp (congrArg Prod.fst h)
  have hafter := congrArg Prod.snd h
  obtain ⟨pending, work, hprepare, haccepted, rfl, hhalt, rfl, rfl⟩ := exists_of_batchEnd (Prod.ext hus hafter)
  obtain ⟨_, rfl⟩ := prepare_beamBatch.mp hprepare
  obtain ⟨hsorted, hlength⟩ := beamChecks_eq_ok.mp hchecks
  refine ⟨haccepted, hhalt, hsorted, hlength, ?_⟩
  rw [List.length_map]

/-- A step is completed if its requests are accepted and the engine, once idle, has reported one generation for each
beam. -/
theorem stepEnd_eq_ok {s : SearchStep σ} (hparams : params.samplingParams.verify = .ok ())
    (haccepted : (svc.engine.offerAll (s.requests params) s.core.engine).refusal = none)
    (hhalt : (s.work svc ticks params).halt = none)
    (hsorted : Update.sorted (s.work svc ticks params).finished = s.results.map .generation)
    (hlength : s.results.length = s.beams.length) :
    svc.stepEnd ticks params s.beams s.core =
      (.ok s.results, { s.core with engine := (s.work svc ticks params).engine
                                    counter := s.core.counter.skip s.beams.length }) := by
  have hprepare : (beamBatch params s.beams).prepare svc.model = .ok _ := prepare_beamBatch.mpr ⟨hparams, rfl⟩
  have hbatch : svc.batchEnd ticks (beamBatch params s.beams) s.core = _ := batchEnd_accepted hprepare haccepted rfl
  have hresult : (s.work svc ticks params).result (Update.sorted (s.work svc ticks params).finished) =
      .ok (s.results.map .generation) := by
    rw [Work.result, hhalt, hsorted]
  have hchecks : beamChecks s.beams (s.results.map .generation) = .ok s.results :=
    beamChecks_eq_ok.mpr ⟨rfl, hlength⟩
  rw [stepEnd, hbatch, List.length_map]
  exact Prod.ext (resultOf_eq_ok.mpr ⟨_, hresult, hchecks⟩) rfl

theorem stepEnd_eq_of_le {results : List Generation} {more : Nat}
    (h : svc.stepEnd ticks params beams core = (.ok results, after)) (hle : ticks ≤ more) :
    svc.stepEnd more params beams core = (.ok results, after) := by
  obtain ⟨us, hus, hchecks⟩ := resultOf_eq_ok.mp (congrArg Prod.fst h)
  have hafter := congrArg Prod.snd h
  have hmore := batchEnd_eq_of_le (Prod.ext hus hafter) hle
  rw [stepEnd, hmore]
  exact Prod.ext (resultOf_eq_ok.mpr ⟨us, rfl, hchecks⟩) rfl

theorem Steps.of_le {steps : List (SearchStep σ)} {more : Nat}
    (h : svc.Steps ticks params steps core hs after hs') (hle : ticks ≤ more) :
    svc.Steps more params steps core hs after hs' := by
  induction h with
  | none => exact .none
  | cons hbusy hstep _ ih => exact .cons hbusy (stepEnd_eq_of_le hstep hle) ih

theorem beamSteps_of_stops {left step : Nat} {sink : ProgressSink τ}
    (h : svc.Stops ticks params left core hs result after) (hw : w.core = core) :
    (svc.beamSteps ticks params (svc.beamRule params) sink left step hs).Ends w result after := by
  cases h with
  | outOfSteps h =>
    subst h
    exact ends_pure hs hw
  | outOfBeams h =>
    cases left with
    | zero => exact ends_pure hs hw
    | succ left =>
      unfold beamSteps
      rw [if_pos (by simp [h])]
      exact (ends_log _ _ hw).bind fun w₁ h₁ => ends_pure hs h₁
  | failed hleft hbusy h =>
    obtain ⟨left, rfl⟩ : ∃ n, left = n + 1 := ⟨left - 1, by omega⟩
    unfold beamSteps
    rw [if_neg (by simpa using hbusy)]
    have hresults := svc.beamResults_ends ticks params (hs.flatMap (·.active)) hw
    rw [h] at hresults
    exact hresults.bind_error

/-- A search goes on from where completed steps have brought it. -/
theorem beamSteps_of_steps {steps : List (SearchStep σ)} {left step : Nat} {sink : ProgressSink τ}
    (hsteps : svc.Steps ticks params steps core hs mid hs') (hstops : svc.Stops ticks params left mid hs' result after)
    (hw : w.core = core) :
    (svc.beamSteps ticks params (svc.beamRule params) sink (steps.length + left) step hs).Ends w result after := by
  induction hsteps generalizing w step with
  | none =>
    rw [List.length_nil, Nat.zero_add]
    exact beamSteps_of_stops hstops hw
  | @cons steps core _ _ hs _ results hbusy hstep _ ih =>
    rw [List.length_cons, Nat.add_right_comm]
    unfold beamSteps
    rw [if_neg (by simpa using hbusy)]
    have hresults := svc.beamResults_ends ticks params (hs.flatMap (·.active)) hw
    rw [hstep] at hresults
    apply hresults.bind
    intro w₁ h₁
    apply (ends_log _ _ h₁).bind
    intro w₂ h₂
    exact (ends_report sink _ h₂).bind fun w₃ h₃ => ih hstops h₃

/-- Every search is a number of completed steps and a stop. -/
theorem exists_steps (svc : Service σ) (ticks : Nat) (params : BeamParams) (remaining : Nat) (core : Core σ)
    (hs : List Hypotheses) :
    ∃ steps left mid hs' result after, steps.length + left = remaining ∧
      svc.Steps ticks params steps core hs mid hs' ∧ svc.Stops ticks params left mid hs' result after := by
  induction remaining generalizing core hs with
  | zero => exact ⟨[], 0, core, hs, _, _, rfl, .none, .outOfSteps rfl⟩
  | succ remaining ih =>
    by_cases hbusy : hs.flatMap (·.active) = []
    · exact ⟨[], remaining + 1, core, hs, _, _, Nat.zero_add _, .none, .outOfBeams hbusy⟩
    · cases hstep : svc.stepEnd ticks params (hs.flatMap (·.active)) core with
      | mk result mid =>
        cases result with
        | error halt =>
          exact ⟨[], remaining + 1, core, hs, _, _, Nat.zero_add _, .none, .failed (by omega) hbusy hstep⟩
        | ok results =>
          obtain ⟨steps, left, mid', hs', result, after, hlength, hsteps, hstops⟩ :=
            ih mid (Hypotheses.advanceAll (svc.beamRule params) hs results)
          refine ⟨_ :: steps, left, mid', hs', result, after, ?_, .cons hbusy hstep hsteps, hstops⟩
          rw [List.length_cons]
          omega

variable {steps steps' : List (SearchStep σ)} {left left' : Nat} {mid' after' : Core σ} {state : List Hypotheses}
  {results : List Generation} {result' : Except Halt (List Hypotheses)}

/-- A search that stops does so where no further step can be completed. -/
theorem Stops.not_ok (h : svc.Stops ticks params left core hs result after) (hleft : 0 < left)
    (hbusy : hs.flatMap (·.active) ≠ []) :
    svc.stepEnd ticks params (hs.flatMap (·.active)) core ≠ (.ok results, mid) := by
  intro hstep
  cases h with
  | outOfSteps hzero => omega
  | outOfBeams hidle => exact hbusy hidle
  | failed _ _ hfails =>
    rw [hstep] at hfails
    cases hfails

/-- The completed steps of a search are determined by where it starts and how many steps it may take. -/
theorem Steps.unique (h : svc.Steps ticks params steps core hs mid hs')
    (hstops : svc.Stops ticks params left mid hs' result after)
    (h' : svc.Steps ticks params steps' core hs mid' state)
    (hstops' : svc.Stops ticks params left' mid' state result' after')
    (hlength : steps.length + left = steps'.length + left') : steps = steps' ∧ mid = mid' ∧ hs' = state := by
  induction h generalizing steps' with
  | none =>
    cases h' with
    | none => exact ⟨rfl, rfl, rfl⟩
    | cons hbusy hstep =>
      rw [List.length_nil, List.length_cons] at hlength
      exact absurd hstep (hstops.not_ok (by omega) hbusy)
  | cons hbusy hstep _ ih =>
    cases h' with
    | none =>
      rw [List.length_nil, List.length_cons] at hlength
      exact absurd hstep (hstops'.not_ok (by omega) hbusy)
    | cons hbusy' hstep' rest' =>
      rw [hstep] at hstep'
      cases hstep'
      rw [List.length_cons, List.length_cons] at hlength
      obtain ⟨hsteps, hend⟩ := ih hstops rest' (by omega)
      exact ⟨by rw [hsteps], hend⟩

variable {prompts : List Prompt} {lora : Broadcast (Option LoraAdapter)} {roots : List Hypotheses}

/-- The arguments of a search pass if the model generates, the parameters are accepted and every prompt makes, with
its adapter, a sequence to start from. -/
theorem searchRoots_eq_ok : svc.searchRoots prompts params lora = .ok roots ↔
    svc.requireGeneration = .ok () ∧ params.verify = .ok () ∧ ∃ loras starts,
      lora.resolve "lora_request" prompts.length = .ok loras ∧
      List.Forall₂ (fun p start => BeamSequence.ofPrompt svc.tokenizer p.1 p.2 = .ok start) (prompts.zip loras) starts ∧
      roots = starts.map fun root => ⟨[root], []⟩ := by
  constructor
  · intro h
    obtain ⟨_, hrunner, h⟩ := bind_eq_ok.mp h
    obtain ⟨_, hparams, h⟩ := bind_eq_ok.mp h
    obtain ⟨loras, hloras, h⟩ := bind_eq_ok.mp h
    obtain ⟨starts, hstarts, h⟩ := bind_eq_ok.mp h
    cases h
    exact ⟨hrunner, hparams, loras, starts, hloras, mapM_eq_ok.mp hstarts, rfl⟩
  · rintro ⟨hrunner, hparams, loras, starts, hloras, hstarts, rfl⟩
    exact bind_eq_ok.mpr ⟨(), hrunner, bind_eq_ok.mpr ⟨(), hparams, bind_eq_ok.mpr ⟨loras, hloras,
      bind_eq_ok.mpr ⟨starts, mapM_eq_ok.mpr hstarts, rfl⟩⟩⟩⟩

/-- A search whose arguments pass ends as its steps do, with the best sequences of each prompt. -/
theorem beamSearch_valid (svc : Service σ) (ticks : Nat) (sink : Option (ProgressSink τ))
    (hroots : svc.searchRoots prompts params lora = .ok roots) (hw : w.core = core)
    (hsteps : ∀ w' : World σ τ, w'.core = core →
      (svc.beamSteps ticks params (svc.beamRule params) (displayOf sink) params.maxTokens 0 roots).Ends w'
        result after) :
    (svc.beamSearch ticks prompts params lora sink).Ends w
      (result.map fun hs => hs.map (·.finish (svc.beamRule params) svc.tokenizer)) after := by
  obtain ⟨hrunner, hparams, loras, starts, hloras, hstarts, rfl⟩ := searchRoots_eq_ok.mp hroots
  apply (ends_check_ok hrunner hw).bind
  intro w₁ h₁
  apply (ends_check_ok hparams h₁).bind
  intro w₂ h₂
  apply (ends_check_ok hloras h₂).bind
  intro w₃ h₃
  apply (ends_check_ok (mapM_eq_ok.mpr hstarts) h₃).bind
  intro w₄ h₄
  apply (ends_logWhen _ _ _ h₄).bind
  intro w₅ h₅
  apply (ends_report _ _ h₅).bind
  intro w₆ h₆
  cases result with
  | error halt => exact (hsteps w₆ h₆).bind_error
  | ok hs =>
    apply (hsteps w₆ h₆).bind
    intro w₇ h₇
    exact (ends_report _ _ h₇).bind fun w₈ h₈ => ends_pure _ h₈

/-- A search whose arguments do not pass does nothing. -/
theorem beamSearch_invalid {sink : Option (ProgressSink τ)} {e : CallError}
    (h : svc.searchRoots prompts params lora = .error e) (hw : w.core = core) :
    (svc.beamSearch ticks prompts params lora sink).Ends w (.error (.failed e)) core := by
  rcases bind_eq_error.mp h with hrunner | ⟨_, hrunner, h⟩
  · exact (ends_check_error hrunner hw).bind_error
  apply (ends_check_ok hrunner hw).bind
  intro w₁ h₁
  rcases bind_eq_error.mp h with hparams | ⟨_, hparams, h⟩
  · exact (ends_check_error hparams h₁).bind_error
  apply (ends_check_ok hparams h₁).bind
  intro w₂ h₂
  rcases bind_eq_error.mp h with hloras | ⟨loras, hloras, h⟩
  · exact (ends_check_error hloras h₂).bind_error
  apply (ends_check_ok hloras h₂).bind
  intro w₃ h₃
  rcases bind_eq_error.mp h with hstarts | ⟨_, _, h⟩
  · exact (ends_check_error hstarts h₃).bind_error
  · cases h

/-- A search ends as its completed steps and its stop say, and in no other way. -/
theorem beamSearch_ends_iff {sink : Option (ProgressSink τ)}
    (hroots : svc.searchRoots prompts params lora = .ok roots) (hw : w.core = core)
    {found : Except Halt (List (List BeamSequence))} :
    (svc.beamSearch ticks prompts params lora sink).Ends w found after ↔
      ∃ steps left mid hs result, steps.length + left = params.maxTokens ∧
        svc.Steps ticks params steps core roots mid hs ∧ svc.Stops ticks params left mid hs result after ∧
        found = result.map fun hs => hs.map (·.finish (svc.beamRule params) svc.tokenizer) := by
  constructor
  · intro h
    obtain ⟨steps, left, mid, hs, result, final, hlength, hsteps, hstops⟩ :=
      svc.exists_steps ticks params params.maxTokens core roots
    have hends := svc.beamSearch_valid ticks sink hroots hw fun w' hw' =>
      hlength ▸ beamSteps_of_steps hsteps hstops hw'
    obtain ⟨rfl, rfl⟩ := h.unique hends
    exact ⟨steps, left, mid, hs, result, hlength, hsteps, hstops, rfl⟩
  · rintro ⟨steps, left, mid, hs, result, hlength, hsteps, hstops, rfl⟩
    exact svc.beamSearch_valid ticks sink hroots hw fun w' hw' => hlength ▸ beamSteps_of_steps hsteps hstops hw'

end Service

end BatchInference
