import BatchInference.Proofs.Batch.Display
import BatchInference.Proofs.Session.Refusals
import BatchInference.Proofs.Beam.Runs

/-!
What a search reports. Its batches report to nobody, so that all that is reported is one phase, started when the
arguments have passed and advanced once for each completed step. The phase is closed by a search that comes to a
result; a search that halts leaves it open, unlike a batch, which closes its phases whatever comes of it.
-/

namespace BatchInference

open Run

/-- What is reported of a phase until it is closed. -/
def ProgressPhase.opened (p : ProgressPhase) : List ProgressEvent :=
  .start p.description p.total :: p.updates.map (·.event)

theorem ProgressPhase.events_eq_opened (p : ProgressPhase) : p.events = p.opened ++ [.close] := rfl

/-- A search of at most so many steps that has completed some. -/
def ProgressPhase.search (total completed : Nat) : ProgressPhase :=
  ⟨"Beam search", total, List.replicate completed (.advance 1)⟩

theorem ProgressPhase.opened_search (total completed : Nat) :
    (search total completed).opened = .start "Beam search" total :: List.replicate completed (.advance 1) :=
  congrArg (ProgressEvent.start "Beam search" total :: ·) List.map_replicate

/-- What is reported at the end of a search: only a result closes the display. -/
def closing {α : Type} : Except Halt α → List ProgressEvent
  | .ok _ => [.close]
  | .error _ => []

namespace Service

variable {σ τ : Type} {svc : Service σ} {w : World σ τ} {core mid after : Core σ} {ticks left step : Nat}
  {params : BeamParams} {prompts : List Prompt} {lora : Broadcast (Option LoraAdapter)} {sink : ProgressSink τ}
  {hs hs' roots : List Hypotheses} {steps : List (SearchStep σ)} {result : Except Halt (List Hypotheses)}
  {found : Except Halt (List (List BeamSequence))}

/-- A batch that is reported to nobody is quiet. -/
theorem quiet_runBatch (svc : Service σ) (ticks : Nat) (batch : Batch) :
    (svc.runBatch ticks batch (.silent τ)).Quiet := by
  intro w
  have hshown := svc.runBatch_shows ticks batch (.silent τ) (w := w) rfl
  rwa [Shows, ProgressSink.receiveAll_silent] at hshown

theorem quiet_beamResults (svc : Service σ) (ticks : Nat) (params : BeamParams) (beams : List BeamSequence) :
    (svc.beamResults ticks params beams : Run σ τ (List Generation)).Quiet :=
  (quiet_runBatch svc ticks _).bind fun _ =>
    (quiet_check _).bind fun _ => (quiet_check _).bind fun _ => quiet_pure _

/-- A search that stops reports nothing more. -/
theorem beamSteps_shows_of_stops (h : svc.Stops ticks params left core hs result after) (hw : w.core = core) :
    (svc.beamSteps ticks params (svc.beamRule params) sink left step hs).Shows sink w [] := by
  cases h with
  | outOfSteps h =>
    subst h
    exact quiet_pure hs w
  | outOfBeams h =>
    cases left with
    | zero => exact quiet_pure hs w
    | succ left =>
      unfold beamSteps
      rw [if_pos (by simp [h])]
      exact ((quiet_log _ _).bind fun _ => quiet_pure hs) w
  | failed hleft hbusy h =>
    obtain ⟨left, rfl⟩ : ∃ n, left = n + 1 := ⟨left - 1, by omega⟩
    unfold beamSteps
    rw [if_neg (by simpa using hbusy)]
    have hends := svc.beamResults_ends ticks params (hs.flatMap (·.active)) hw
    rw [h] at hends
    exact ((quiet_beamResults svc ticks params _).shows sink w).bind_error hends

/-- Every completed step advances the display by one. -/
theorem beamSteps_shows (hsteps : svc.Steps ticks params steps core hs mid hs')
    (hstops : svc.Stops ticks params left mid hs' result after) (hw : w.core = core) :
    (svc.beamSteps ticks params (svc.beamRule params) sink (steps.length + left) step hs).Shows sink w
      (List.replicate steps.length (.advance 1)) := by
  induction hsteps generalizing w step with
  | none =>
    rw [List.length_nil, Nat.zero_add]
    exact beamSteps_shows_of_stops hstops hw
  | @cons steps core _ _ hs _ results hbusy hstep _ ih =>
    rw [List.length_cons, Nat.add_right_comm]
    unfold beamSteps
    rw [if_neg (by simpa using hbusy)]
    have hends := svc.beamResults_ends ticks params (hs.flatMap (·.active)) hw
    rw [hstep] at hends
    apply (quiet_beamResults svc ticks params _).bind_shows hends
    intro w₁ h₁
    apply (quiet_log _ _).bind_shows (ends_log _ _ h₁)
    intro w₂ h₂
    exact report_shows h₂ fun w₃ h₃ => ih hstops h₃

/-- The display is closed when the steps have come to a result, and only then. -/
theorem closing_shows (hsteps : svc.Steps ticks params steps core roots mid hs)
    (hstops : svc.Stops ticks params left mid hs result after) (hleft : steps.length + left = params.maxTokens)
    (hw : w.core = core) :
    (svc.beamSteps ticks params (svc.beamRule params) sink params.maxTokens 0 roots >>= fun hs =>
        Run.report sink .close >>= fun _ =>
          pure (hs.map fun h => h.finish (svc.beamRule params) svc.tokenizer)).Shows sink w
      (List.replicate steps.length (.advance 1) ++ closing result) := by
  rw [← hleft]
  have hends : (svc.beamSteps ticks params (svc.beamRule params) sink (steps.length + left) 0 roots).Ends w _ _ :=
    beamSteps_of_steps hsteps hstops hw
  have hshown : (svc.beamSteps ticks params (svc.beamRule params) sink (steps.length + left) 0 roots).Shows sink w _ :=
    beamSteps_shows hsteps hstops hw
  cases result with
  | ok hs => exact hshown.bind hends fun w₁ _ => (shows_report sink w₁ _).before_quiet fun _ => quiet_pure _
  | error halt =>
    rw [closing, List.append_nil]
    exact hshown.bind_error hends

/-- Once its arguments have passed, a search reports its start and what follows. -/
theorem beamSearch_shows (svc : Service σ) (ticks : Nat) (sink : ProgressSink τ)
    (shown : List Hypotheses → List ProgressEvent) (hw : w.core = core)
    (hclosing : ∀ roots, svc.searchRoots prompts params lora = .ok roots → ∀ w' : World σ τ, w'.core = core →
      (svc.beamSteps ticks params (svc.beamRule params) sink params.maxTokens 0 roots >>= fun hs =>
        Run.report sink .close >>= fun _ =>
          pure (hs.map fun h => h.finish (svc.beamRule params) svc.tokenizer)).Shows sink w' (shown roots)) :
    (svc.beamSearch ticks prompts params lora (some sink)).Shows sink w
      (shownAfter (svc.searchRoots prompts params lora) fun roots =>
        .start "Beam search" params.maxTokens :: shown roots) := by
  refine (quiet_check _).checked_shows (ends_check _ hw) fun _ hrunner w₁ h₁ => ?_
  refine (quiet_check _).checked_shows (ends_check _ h₁) fun _ hparams w₂ h₂ => ?_
  refine (quiet_check _).checked_shows (ends_check _ h₂) fun loras hloras w₃ h₃ => ?_
  refine (quiet_check _).checked_shows (ends_check _ h₃) fun starts hstarts w₄ h₄ => ?_
  have hroots : svc.searchRoots prompts params lora = .ok (starts.map fun root => ⟨[root], []⟩) :=
    searchRoots_eq_ok.mpr ⟨hrunner, hparams, loras, starts, hloras, mapM_eq_ok.mp hstarts, rfl⟩
  refine (quiet_logWhen _ _ _).bind_shows (ends_logWhen _ _ _ h₄) fun w₅ h₅ => ?_
  exact report_shows h₅ (hclosing _ hroots)

/-- A search whose arguments do not pass reports nothing. -/
theorem beamSearch_shows_nothing {e : CallError} (h : svc.searchRoots prompts params lora = .error e) :
    (svc.beamSearch ticks prompts params lora (some sink)).Shows sink w [] := by
  have hshown : (svc.beamSearch ticks prompts params lora (some sink)).Shows sink w _ :=
    svc.beamSearch_shows ticks sink (fun _ => []) rfl fun roots hroots => by simp [h] at hroots
  rwa [h] at hshown

/-- A search reports its completed steps, and its close if it has found something. -/
theorem Course.shows (h : svc.Course ticks params core roots steps mid hs found after)
    (hroots : svc.searchRoots prompts params lora = .ok roots) (hw : w.core = core) :
    (svc.beamSearch ticks prompts params lora (some sink)).Shows sink w
      ((ProgressPhase.search params.maxTokens steps.length).opened ++ closing found) := by
  obtain ⟨result, hstops, hfound⟩ := h.stops
  have hclosing : closing found = closing result := by
    rw [hfound]
    cases result <;> rfl
  have hshown : (svc.beamSearch ticks prompts params lora (some sink)).Shows sink w _ :=
    svc.beamSearch_shows ticks sink (fun _ => List.replicate steps.length (.advance 1) ++ closing result) hw
      fun _ hpassed _ hw' => by
        cases hroots.symm.trans hpassed
        exact closing_shows h.completes hstops (Nat.add_sub_cancel' h.length_le) hw'
  rw [hroots] at hshown
  rwa [hclosing, ProgressPhase.opened_search]

/-- What a search reports, as its steps and its end say. The phase of a search that comes to a result is closed; that
of one that halts is not. -/
inductive Reports (svc : Service σ) (ticks : Nat) (prompts : List Prompt) (params : BeamParams)
    (lora : Broadcast (Option LoraAdapter)) (core : Core σ) :
    Except Halt (List (List BeamSequence)) → List ProgressEvent → Prop
  | invalid {e : CallError} (refused : svc.searchRoots prompts params lora = .error e) :
      Reports svc ticks prompts params lora core (.error (.failed e)) []
  | closed {roots hs : List Hypotheses} {steps : List (SearchStep σ)} {mid after : Core σ}
      {kept : List (List BeamSequence)} (passed : svc.searchRoots prompts params lora = .ok roots)
      (course : svc.Course ticks params core roots steps mid hs (.ok kept) after) :
      Reports svc ticks prompts params lora core (.ok kept)
        (ProgressPhase.search params.maxTokens steps.length).events
  | leftOpen {roots hs : List Hypotheses} {steps : List (SearchStep σ)} {mid after : Core σ} {halt : Halt}
      (passed : svc.searchRoots prompts params lora = .ok roots)
      (course : svc.Course ticks params core roots steps mid hs (.error halt) after) :
      Reports svc ticks prompts params lora core (.error halt)
        (ProgressPhase.search params.maxTokens steps.length).opened

theorem Course.reports (h : svc.Course ticks params core roots steps mid hs found after)
    (hroots : svc.searchRoots prompts params lora = .ok roots) :
    svc.Reports ticks prompts params lora core found
      ((ProgressPhase.search params.maxTokens steps.length).opened ++ closing found) := by
  cases found with
  | ok kept =>
    rw [closing, ← ProgressPhase.events_eq_opened]
    exact .closed hroots h
  | error halt =>
    rw [closing, List.append_nil]
    exact .leftOpen hroots h

theorem Reports.close_mem_iff {events : List ProgressEvent}
    (h : svc.Reports ticks prompts params lora core found events) : .close ∈ events ↔ ∃ kept, found = .ok kept := by
  cases h with
  | invalid => simp
  | closed => simp [ProgressPhase.events_eq_opened]
  | leftOpen => simp [ProgressPhase.opened_search]

/-- Whatever the engine does, a search reports one phase, started once its arguments have passed and advanced by one
for each completed step. The phase is closed exactly if the search comes to a result: an error leaves it open. -/
theorem search_display_closed_iff_found (svc : Service σ) (ticks : Nat) (prompts : List Prompt) (params : BeamParams)
    (lora : Broadcast (Option LoraAdapter)) (sink : ProgressSink τ) (w : World σ τ) :
    ∃ found events after, (svc.beamSearch ticks prompts params lora (some sink)).Ends w found after ∧
      (svc.beamSearch ticks prompts params lora (some sink)).Shows sink w events ∧
      svc.Reports ticks prompts params lora w.core found events ∧
      (.close ∈ events ↔ ∃ kept, found = .ok kept) := by
  cases hroots : svc.searchRoots prompts params lora with
  | error e =>
    have hreports : svc.Reports ticks prompts params lora w.core _ _ := .invalid hroots
    exact ⟨_, _, _, beamSearch_invalid hroots rfl, beamSearch_shows_nothing hroots, hreports, hreports.close_mem_iff⟩
  | ok roots =>
    have hends := (svc.beamSearch ticks prompts params lora (some sink)).ends_outcome w
    obtain ⟨steps, mid, hs, hcourse⟩ := (ends_iff_exists_course hroots).mp hends
    have hshown : (svc.beamSearch ticks prompts params lora (some sink)).Shows sink w _ := hcourse.shows hroots rfl
    have hreports : svc.Reports ticks prompts params lora w.core _ _ := hcourse.reports hroots
    exact ⟨_, _, _, hends, hshown, hreports, hreports.close_mem_iff⟩

/-- A service whose engine refuses the first request it is offered. -/
def refusingService : Service Scripted.State where
  engine := ({ answers := { offsets := [] }, alphabet := {}, refused := [0] } : Scripted.Plan).engine
  tokenizer := Scripted.Alphabet.tokenizer {}
  logger := none

/-- A search whose first request is refused ends with the engine's error and leaves the display open. -/
theorem display_left_open_by_refusal : ∃ w : World Scripted.State (List ProgressEvent),
    (refusingService.beamSearch 1 [.ofTokens [10]] oneToken (.one none) (some .recorder)).outcome
        { engine := {}, counter := ⟨0⟩, sink := [] } =
      (.error (.failed (.engine (.reported "rejected request 0"))), w) ∧
    w.sink = [.start "Beam search" 1] ∧ .close ∉ w.sink := by
  refine ⟨_, rfl, rfl, ?_⟩
  decide +kernel

end Service

end BatchInference
