import BatchInference.Proofs.Display

/-!
Everything an activity says, to the display and to the log together and in order. What becomes of a report is the
display's affair and what becomes of a request the request logger's, so that what is said is the same whatever the two
are. The reports of an activity are those among its remarks.
-/

namespace BatchInference

variable {σ τ α β : Type}

inductive Remark where
  | report (event : ProgressEvent)
  | note (record : LogRecord)
  /-- A request, as it is shown before the engine gets it. -/
  | request (request : Request)

namespace Remark

/-- A display and a log after a remark. -/
def heard (logger : Option RequestLogger) (sink : ProgressSink τ) (seen : τ × List LogRecord) :
    Remark → τ × List LogRecord
  | .report event => ((sink.receive seen.1 event).1, seen.2 ++ (sink.receive seen.1 event).2)
  | .note record => (seen.1, seen.2 ++ [record])
  | .request r => (seen.1, seen.2 ++ (logger.map (·.record r)).toList)

def report? : Remark → Option ProgressEvent
  | .report event => some event
  | _ => none

def request? : Remark → Option Request
  | .request r => some r
  | _ => none

@[simp]
theorem report?_report (event : ProgressEvent) : (report event).report? = some event := rfl

@[simp]
theorem report?_note (record : LogRecord) : (note record).report? = none := rfl

@[simp]
theorem report?_request (r : Request) : (request r).report? = none := rfl

@[simp]
theorem request?_report (event : ProgressEvent) : (report event).request? = none := rfl

@[simp]
theorem request?_note (record : LogRecord) : (note record).request? = none := rfl

@[simp]
theorem request?_request (r : Request) : (request r).request? = some r := rfl

theorem foldl_heard_fst (logger : Option RequestLogger) (sink : ProgressSink τ) (remarks : List Remark)
    (seen : τ × List LogRecord) :
    (remarks.foldl (heard logger sink) seen).1 = sink.receiveAll seen.1 (remarks.filterMap (·.report?)) := by
  induction remarks generalizing seen with
  | nil => rfl
  | cons remark rest ih =>
    rw [List.foldl_cons, ih]
    cases remark <;> rfl

end Remark

namespace Run

/-- Run in a world, the activity makes these remarks. -/
def Tells (act : Run σ τ α) (logger : Option RequestLogger) (sink : ProgressSink τ) (w : World σ τ)
    (remarks : List Remark) : Prop :=
  ((act.outcome w).2.sink, (act.outcome w).2.log) = remarks.foldl (Remark.heard logger sink) (w.sink, w.log)

variable {act : Run σ τ α} {next : α → Run σ τ β} {logger : Option RequestLogger} {sink : ProgressSink τ}
  {w : World σ τ} {after : Core σ} {a : α} {remarks more : List Remark}

theorem Tells.bind (hact : act.Tells logger sink w remarks) (hends : act.Ends w (.ok a) after)
    (hnext : ∀ w', w'.core = after → (next a).Tells logger sink w' more) :
    (act >>= next).Tells logger sink w (remarks ++ more) := by
  obtain ⟨w', hw', hcore⟩ := hends.exists_ok
  have hrest := hnext w' hcore
  simp only [Tells, outcome, hw'] at hact
  simp only [Tells, outcome, bind_apply, hw', List.foldl_append] at hrest ⊢
  rw [hrest, hact]

theorem Tells.bind_error {halt : Halt} (hact : act.Tells logger sink w remarks)
    (hends : act.Ends w (.error halt) after) : (act >>= next).Tells logger sink w remarks := by
  obtain ⟨w', hw', _⟩ := hends.exists_error
  simp only [Tells, outcome, hw'] at hact
  simp only [Tells, outcome, bind_apply, hw', hact]

/-- Nothing more is said if whatever follows says nothing. -/
theorem Tells.before_silent (hact : act.Tells logger sink w remarks)
    (hnext : ∀ a w', (next a).Tells logger sink w' []) : (act >>= next).Tells logger sink w remarks := by
  cases hrun : act w with
  | ok a w' =>
    have hrest := hnext a w'
    simp only [Tells, outcome, hrun] at hact
    simp only [Tells, outcome, bind_apply, hrun, List.foldl_nil] at hrest ⊢
    rw [hrest, hact]
  | error halt w' =>
    simp only [Tells, outcome, hrun] at hact
    simp only [Tells, outcome, bind_apply, hrun, hact]

theorem Tells.shows (h : act.Tells logger sink w remarks) : act.Shows sink w (remarks.filterMap (·.report?)) := by
  have hsink := congrArg Prod.fst h
  rwa [Remark.foldl_heard_fst] at hsink

theorem tells_pure (a : α) : (pure a : Run σ τ α).Tells logger sink w [] := rfl

theorem tells_fail (e : CallError) : (fail e : Run σ τ α).Tells logger sink w [] := rfl

theorem tells_drawId : (drawId : Run σ τ RequestId).Tells logger sink w [] := rfl

theorem tells_offer (e : Engine σ) (r : Request) :
    (offer e r : Run σ τ (Except String Unit)).Tells logger sink w [] := rfl

theorem tells_report (sink : ProgressSink τ) (e : ProgressEvent) :
    (report sink e : Run σ τ Unit).Tells logger sink w [.report e] := rfl

/-- A report and what is said after it. -/
theorem report_tells {next : Unit → Run σ τ β} {e : ProgressEvent} (hw : w.core = after)
    (hnext : ∀ w', w'.core = after → (next ()).Tells logger sink w' more) :
    (report sink e >>= next).Tells logger sink w (.report e :: more) :=
  (tells_report sink e).bind (ends_report sink e hw) hnext

theorem tells_log (level : LogLevel) (text : String) :
    (log level text : Run σ τ Unit).Tells logger sink w [.note ⟨level, text⟩] := rfl

theorem tells_showRequest (svc : Service σ) (r : Request) :
    (svc.showRequest r : Run σ τ Unit).Tells svc.logger sink w [.request r] := by
  unfold Service.showRequest
  cases hlogger : svc.logger with
  | none => simp [Tells, outcome, Remark.heard]
  | some logger => rfl

end Run

end BatchInference
