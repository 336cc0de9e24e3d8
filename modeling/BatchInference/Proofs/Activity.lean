import BatchInference.Service
import BatchInference.Proofs.Checks

/-!
What an activity does, as far as anyone can tell who does not look at the display or the log. An activity ends
with a result in a core: the engine, the counter and the remembered defaults. Two activities in a row end where
the second does, so that the end of a call is put together from the ends of its parts.
-/

namespace BatchInference

/-- The part of a world that can come back to a call. -/
@[ext]
structure Core (σ : Type) where
  engine : σ
  counter : IdCounter
  defaults : Option SamplingParams

/-- What a check makes of a result that is not there yet or already lost. -/
def resultOf {α β : Type} (result : Except Halt α) (f : α → Except CallError β) : Except Halt β :=
  match result with
  | .ok a =>
    match f a with
    | .ok b => .ok b
    | .error e => .error (.failed e)
  | .error h => .error h

theorem resultOf_eq_ok {α β : Type} {result : Except Halt α} {f : α → Except CallError β} {b : β} :
    resultOf result f = .ok b ↔ ∃ a, result = .ok a ∧ f a = .ok b := by
  cases result with
  | error h => simp [resultOf]
  | ok a => cases hf : f a <;> simp [resultOf, hf]

theorem resultOf_eq_failed {α β : Type} {result : Except Halt α} {f : α → Except CallError β} {e : CallError} :
    resultOf result f = .error (.failed e) ↔ result = .error (.failed e) ∨ ∃ a, result = .ok a ∧ f a = .error e := by
  cases result with
  | error h => simp [resultOf]
  | ok a => cases hf : f a <;> simp [resultOf, hf]

/-- Two checks in a row are one. -/
theorem resultOf_resultOf {α β γ : Type} {result : Except Halt α} {f : α → Except CallError β}
    {g : β → Except CallError γ} : resultOf (resultOf result f) g = resultOf result fun a => f a >>= g := by
  cases result with
  | error h => rfl
  | ok a =>
    simp only [resultOf]
    cases f a <;> rfl

variable {σ τ α β : Type}

def World.core (w : World σ τ) : Core σ := ⟨w.engine, w.counter, w.defaults⟩

namespace Run

/-- Run in a world, the activity has this result and leaves this core. -/
def Ends (act : Run σ τ α) (w : World σ τ) (result : Except Halt α) (after : Core σ) : Prop :=
  ∃ w', act.outcome w = (result, w') ∧ w'.core = after

variable {act : Run σ τ α} {w : World σ τ} {after : Core σ}

theorem Ends.unique {result result' : Except Halt α} {after' : Core σ} (h : act.Ends w result after)
    (h' : act.Ends w result' after') : result = result' ∧ after = after' := by
  obtain ⟨w₁, h₁, rfl⟩ := h
  obtain ⟨w₂, h₂, rfl⟩ := h'
  rw [h₁] at h₂
  exact ⟨congrArg Prod.fst h₂, congrArg (fun o => o.2.core) h₂⟩

theorem ends_outcome (act : Run σ τ α) (w : World σ τ) :
    act.Ends w (act.outcome w).1 (act.outcome w).2.core :=
  ⟨_, rfl, rfl⟩

theorem Ends.exists_ok {a : α} (hends : act.Ends w (.ok a) after) : ∃ w', act w = .ok a w' ∧ w'.core = after := by
  obtain ⟨w', hw', hcore⟩ := hends
  cases hrun : act w with
  | ok b w₁ =>
    simp only [outcome, hrun, Prod.mk.injEq, Except.ok.injEq] at hw'
    obtain ⟨rfl, rfl⟩ := hw'
    exact ⟨w₁, rfl, hcore⟩
  | error h w₁ => simp [outcome, hrun] at hw'

theorem Ends.exists_error {h : Halt} (hends : act.Ends w (.error h) after) :
    ∃ w', act w = .error h w' ∧ w'.core = after := by
  obtain ⟨w', hw', hcore⟩ := hends
  cases hrun : act w with
  | ok b w₁ => simp [outcome, hrun] at hw'
  | error h' w₁ =>
    simp only [outcome, hrun, Prod.mk.injEq, Except.error.injEq] at hw'
    obtain ⟨rfl, rfl⟩ := hw'
    exact ⟨w₁, rfl, hcore⟩

/-- The second of two activities starts where the first ends. -/
theorem Ends.bind {next : α → Run σ τ β} {a : α} {result : Except Halt β} {final : Core σ}
    (hact : act.Ends w (.ok a) after)
    (hnext : ∀ w', w'.core = after → (next a).Ends w' result final) :
    (act >>= next).Ends w result final := by
  obtain ⟨w', hw', hcore⟩ := hact.exists_ok
  obtain ⟨w'', hw'', hfinal⟩ := hnext w' hcore
  refine ⟨w'', ?_, hfinal⟩
  simpa only [outcome, bind_apply, hw'] using hw''

/-- What follows an activity that halts is left undone. -/
theorem Ends.bind_error {next : α → Run σ τ β} {h : Halt} (hact : act.Ends w (.error h) after) :
    (act >>= next).Ends w (.error h) after := by
  obtain ⟨w', hw', hcore⟩ := hact.exists_error
  exact ⟨w', by simp only [outcome, bind_apply, hw'], hcore⟩

theorem Ends.view {result : Except Halt α} (h : act.Ends w result after) (f : α → β) :
    (act >>= fun a => pure (f a)).Ends w (result.map f) after := by
  cases result with
  | ok a =>
    apply h.bind
    intro w' hw'
    exact ⟨w', rfl, hw'⟩
  | error e => exact h.bind_error

/-- A view of a result fails as what it views. -/
theorem Ends.of_view_error {f : α → β} {h : Halt}
    (hends : (act >>= fun a => pure (f a)).Ends w (.error h) after) : act.Ends w (.error h) after := by
  have hact := act.ends_outcome w
  obtain ⟨hresult, hcore⟩ := hends.unique (hact.view f)
  cases houtcome : (act.outcome w).1 with
  | ok a =>
    rw [houtcome] at hresult
    cases hresult
  | error h' =>
    rw [houtcome] at hresult hact
    cases hresult
    rwa [hcore]

/-- What follows an activity does no more than check its result. -/
theorem Ends.followed {result : Except Halt α} {next : α → Run σ τ β} {f : α → Except CallError β}
    (h : act.Ends w result after)
    (hnext : ∀ a w', w'.core = after → (next a).Ends w' (resultOf (.ok a) f) after) :
    (act >>= next).Ends w (resultOf result f) after := by
  cases result with
  | ok a => exact h.bind (hnext a)
  | error e => exact h.bind_error

theorem ends_check (checked : Except CallError α) (hw : w.core = after) :
    (check checked : Run σ τ α).Ends w (resultOf (.ok ()) fun _ => checked) after := by
  cases checked with
  | ok a => exact ⟨w, rfl, hw⟩
  | error e => exact ⟨w, rfl, hw⟩

theorem Ends.checked {result : Except Halt α} (h : act.Ends w result after) (f : α → Except CallError β) :
    (act >>= fun a => check (f a)).Ends w (resultOf result f) after :=
  h.followed fun a _ hw' => ends_check (f a) hw'

/-! The ends of the single activities, in a world with a given core. -/

section Single

variable {s : σ} {c : IdCounter} {d : Option SamplingParams}

theorem ends_pure (a : α) (hw : w.core = after) : (pure a : Run σ τ α).Ends w (.ok a) after := ⟨w, rfl, hw⟩

theorem ends_fail (e : CallError) (hw : w.core = after) :
    (fail e : Run σ τ α).Ends w (.error (.failed e)) after := ⟨w, rfl, hw⟩

theorem ends_check_ok {checked : Except CallError α} {a : α} (h : checked = .ok a) (hw : w.core = after) :
    (check checked : Run σ τ α).Ends w (.ok a) after := by
  subst h
  exact ends_pure a hw

theorem ends_check_error {checked : Except CallError α} {e : CallError} (h : checked = .error e)
    (hw : w.core = after) : (check checked : Run σ τ α).Ends w (.error (.failed e)) after := by
  subst h
  exact ends_fail e hw

theorem ends_log (level : LogLevel) (text : String) (hw : w.core = after) :
    (log level text : Run σ τ Unit).Ends w (.ok ()) after := ⟨_, rfl, hw⟩

theorem ends_logWhen (reason : Bool) (level : LogLevel) (text : String) (hw : w.core = after) :
    (logWhen reason level text : Run σ τ Unit).Ends w (.ok ()) after := by
  cases reason with
  | false => exact ends_pure () hw
  | true => exact ends_log level text hw

theorem ends_report (sink : ProgressSink τ) (e : ProgressEvent) (hw : w.core = after) :
    (report sink e : Run σ τ Unit).Ends w (.ok ()) after := ⟨_, rfl, hw⟩

theorem ends_drawId (hw : w.core = ⟨s, c, d⟩) :
    (drawId : Run σ τ RequestId).Ends w (.ok c.peek) ⟨s, c.draw.2, d⟩ := by
  cases hw
  exact ⟨_, rfl, rfl⟩

theorem ends_offer (e : Engine σ) (r : Request) (hw : w.core = ⟨s, c, d⟩) :
    (offer e r : Run σ τ (Except String Unit)).Ends w (.ok (e.submit s r).1) ⟨(e.submit s r).2, c, d⟩ := by
  cases hw
  exact ⟨_, rfl, rfl⟩

theorem ends_tick (e : Engine σ) (hw : w.core = ⟨s, c, d⟩) :
    (tick e : Run σ τ (Except String (List Update))).Ends w (.ok (e.step s).1) ⟨(e.step s).2, c, d⟩ := by
  cases hw
  exact ⟨_, rfl, rfl⟩

theorem ends_remember (p : SamplingParams) (hw : w.core = ⟨s, c, d⟩) :
    (modify fun w => { w with defaults := some p } : Run σ τ Unit).Ends w (.ok ()) ⟨s, c, some p⟩ := by
  cases hw
  exact ⟨_, rfl, rfl⟩

theorem ends_get (hw : w.core = after) :
    (get : Run σ τ (World σ τ)).Ends w (.ok w) after := ⟨w, rfl, hw⟩

theorem Ends.settle {result : Except Halt α} (h : act.Ends w result after) :
    (Run.settle act).Ends w (.ok result) after := by
  obtain ⟨w', hw', hcore⟩ := h
  refine ⟨w', ?_, hcore⟩
  change (Except.ok (act.outcome w).1, (act.outcome w).2) = _
  rw [hw']

theorem ends_resume (result : Except Halt α) (hw : w.core = after) : (resume result).Ends w result after := by
  cases result with
  | ok a => exact ⟨w, rfl, hw⟩
  | error h => exact ⟨w, rfl, hw⟩

theorem ends_showRequest (svc : Service σ) (r : Request) (hw : w.core = after) :
    (svc.showRequest r : Run σ τ Unit).Ends w (.ok ()) after := by
  unfold Service.showRequest
  split
  · exact ends_pure () hw
  · exact ends_log _ _ hw

end Single

end Run

end BatchInference
