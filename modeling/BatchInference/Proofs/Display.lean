import BatchInference.Proofs.Activity

/-!
What an activity reports to the display. The reports of two activities in a row are those of the first and then
those of the second, and most activities report nothing. A display of whatever kind is left as the reports leave it,
so that the reports are told apart from what becomes of them.
-/

namespace BatchInference

variable {σ τ α β : Type}

namespace ProgressSink

/-- The state in which a display is after reports in order. -/
def receiveAll (sink : ProgressSink τ) (shown : τ) (events : List ProgressEvent) : τ :=
  events.foldl (fun shown e => (sink.receive shown e).1) shown

@[simp]
theorem receiveAll_nil (sink : ProgressSink τ) (shown : τ) : sink.receiveAll shown [] = shown := rfl

@[simp]
theorem receiveAll_append (sink : ProgressSink τ) (shown : τ) (events more : List ProgressEvent) :
    sink.receiveAll shown (events ++ more) = sink.receiveAll (sink.receiveAll shown events) more :=
  List.foldl_append

@[simp]
theorem receiveAll_silent (shown : τ) (events : List ProgressEvent) : (silent τ).receiveAll shown events = shown := by
  induction events with
  | nil => rfl
  | cons e rest ih => exact ih

/-- What a recorder has seen is what it was told. -/
@[simp]
theorem receiveAll_recorder (seen events : List ProgressEvent) :
    recorder.receiveAll seen events = seen ++ events := by
  induction events generalizing seen with
  | nil => exact (List.append_nil seen).symm
  | cons e rest ih => exact (ih (seen ++ [e])).trans (List.append_assoc seen [e] rest)

end ProgressSink

/-- A report on a phase that is under way. -/
inductive PhaseUpdate where
  | advance (n : Nat)
  | status (text : String)

namespace PhaseUpdate

def event : PhaseUpdate → ProgressEvent
  | .advance n => .advance n
  | .status text => .status text

def advanced? : PhaseUpdate → Option Nat
  | .advance n => some n
  | .status _ => none

end PhaseUpdate

/-- A phase as it is reported from its start to its close. -/
structure ProgressPhase where
  description : String
  total : Nat
  updates : List PhaseUpdate

namespace ProgressPhase

def events (p : ProgressPhase) : List ProgressEvent :=
  .start p.description p.total :: p.updates.map (·.event) ++ [.close]

/-- By how much the phase is advanced each time, in order. -/
def advances (p : ProgressPhase) : List Nat := p.updates.filterMap (·.advanced?)

end ProgressPhase

/-- What is reported after a check, which is nothing if the check fails. -/
def shownAfter (checked : Except CallError α) (shown : α → List ProgressEvent) : List ProgressEvent :=
  match checked with
  | .ok a => shown a
  | .error _ => []

theorem shownAfter_bind {checked : Except CallError α} {checks : α → Except CallError β}
    {shown : β → List ProgressEvent} :
    shownAfter (checked >>= checks) shown = shownAfter checked fun a => shownAfter (checks a) shown := by
  cases checked <;> rfl

namespace Run

/-- Run in a world, the activity reports these events. -/
def Shows (act : Run σ τ α) (sink : ProgressSink τ) (w : World σ τ) (events : List ProgressEvent) : Prop :=
  (act.outcome w).2.sink = sink.receiveAll w.sink events

/-- The activity leaves every display as it is. -/
def Quiet (act : Run σ τ α) : Prop := ∀ w, (act.outcome w).2.sink = w.sink

variable {act : Run σ τ α} {next : α → Run σ τ β} {sink : ProgressSink τ} {w : World σ τ} {after : Core σ} {a : α}
  {events more : List ProgressEvent}

theorem Quiet.shows (h : act.Quiet) (sink : ProgressSink τ) (w : World σ τ) : act.Shows sink w [] := h w

/-- The reports of two activities are those of the first and then those of the second. -/
theorem Shows.bind (hact : act.Shows sink w events) (hends : act.Ends w (.ok a) after)
    (hnext : ∀ w', w'.core = after → (next a).Shows sink w' more) : (act >>= next).Shows sink w (events ++ more) := by
  obtain ⟨w', hw', hcore⟩ := hends.exists_ok
  have hrest := hnext w' hcore
  simp only [Shows, outcome, hw'] at hact
  simp only [Shows, outcome, bind_apply, hw', ProgressSink.receiveAll_append] at hrest ⊢
  rw [hrest, hact]

/-- What follows an activity that halts reports nothing. -/
theorem Shows.bind_error {halt : Halt} (hact : act.Shows sink w events) (hends : act.Ends w (.error halt) after) :
    (act >>= next).Shows sink w events := by
  obtain ⟨w', hw', _⟩ := hends.exists_error
  simp only [Shows, outcome, hw'] at hact
  simp only [Shows, outcome, bind_apply, hw', hact]

/-- Nothing more is reported if all that follows is quiet. -/
theorem Shows.before_quiet (hact : act.Shows sink w events) (hnext : ∀ a, (next a).Quiet) :
    (act >>= next).Shows sink w events := by
  cases hrun : act w with
  | ok a w' =>
    have hrest := hnext a w'
    simp only [Shows, outcome, hrun] at hact
    simp only [Shows, outcome, bind_apply, hrun] at hrest ⊢
    rw [hrest, hact]
  | error halt w' =>
    simp only [Shows, outcome, hrun] at hact
    simp only [Shows, outcome, bind_apply, hrun, hact]

theorem Quiet.bind (h : act.Quiet) (hnext : ∀ a, (next a).Quiet) : (act >>= next).Quiet :=
  fun w => (h.shows (.silent τ) w).before_quiet hnext

theorem Quiet.bind_shows (h : act.Quiet) (hends : act.Ends w (.ok a) after)
    (hnext : ∀ w', w'.core = after → (next a).Shows sink w' events) : (act >>= next).Shows sink w events :=
  (h.shows sink w).bind hends hnext

/-- What a quiet activity with the result of a check is followed by reports what its own checks let it report. -/
theorem Quiet.checked_shows {γ : Type} {checked : Except CallError α} {checks : α → Except CallError γ}
    {shown : γ → List ProgressEvent} (h : act.Quiet)
    (hends : act.Ends w (resultOf (.ok ()) fun _ => checked) after)
    (hnext : ∀ a, checked = .ok a → ∀ w', w'.core = after → (next a).Shows sink w' (shownAfter (checks a) shown)) :
    (act >>= next).Shows sink w (shownAfter (checked >>= checks) shown) := by
  cases checked with
  | ok a => exact h.bind_shows hends (hnext a rfl)
  | error e => exact (h.shows sink w).bind_error hends

theorem shows_report (sink : ProgressSink τ) (w : World σ τ) (e : ProgressEvent) :
    (report sink e : Run σ τ Unit).Shows sink w [e] := rfl

/-- A report and what the activity after it reports. -/
theorem report_shows {next : Unit → Run σ τ β} {e : ProgressEvent} (hw : w.core = after)
    (hnext : ∀ w', w'.core = after → (next ()).Shows sink w' events) :
    (report sink e >>= next).Shows sink w (e :: events) :=
  (shows_report sink w e).bind (ends_report sink e hw) hnext

/-- What an activity reports is settled with it. -/
theorem Shows.settle (h : act.Shows sink w events) : (Run.settle act).Shows sink w events := h

/-! The activities that report nothing. -/

theorem quiet_pure (a : α) : (pure a : Run σ τ α).Quiet := fun _ => rfl

theorem quiet_halt (halt : Halt) : (throw halt : Run σ τ α).Quiet := fun _ => rfl

theorem quiet_fail (e : CallError) : (fail e : Run σ τ α).Quiet := fun _ => rfl

theorem quiet_check (checked : Except CallError α) : (check checked : Run σ τ α).Quiet := by
  cases checked with
  | ok a => exact quiet_pure a
  | error e => exact quiet_fail e

theorem quiet_resume (result : Except Halt α) : (resume result : Run σ τ α).Quiet := by
  cases result with
  | ok a => exact quiet_pure a
  | error halt => exact quiet_halt halt

theorem quiet_log (level : LogLevel) (text : String) : (log level text : Run σ τ Unit).Quiet := fun _ => rfl

theorem quiet_logWhen (reason : Bool) (level : LogLevel) (text : String) :
    (logWhen reason level text : Run σ τ Unit).Quiet := by
  cases reason with
  | false => exact quiet_pure ()
  | true => exact quiet_log level text

theorem quiet_get : (get : Run σ τ (World σ τ)).Quiet := fun _ => rfl

theorem quiet_tick (e : Engine σ) : (tick e : Run σ τ (Except String (List Update))).Quiet := fun _ => rfl

theorem quiet_remember (p : SamplingParams) :
    (modify fun w => { w with defaults := some p } : Run σ τ Unit).Quiet := fun _ => rfl

end Run

end BatchInference
