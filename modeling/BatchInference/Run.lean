import BatchInference.Engine
import BatchInference.Progress
import BatchInference.Error

/-!
The setting a call runs in. A call works on an engine's state, a counter, a progress display and a log, and ends
with a result, an error, or out of ticks: an engine may go on for ever, so a call is given the number of ticks
after which it gives up, and giving up is neither a result nor an error of the call.
-/

namespace BatchInference

/-- Everything a call can change. -/
structure World (σ τ : Type) where
  engine : σ
  counter : IdCounter
  sink : τ
  log : List LogRecord := []
  /-- The sampling parameters of calls that give none, once they have been needed. -/
  defaults : Option SamplingParams := none

/-- Why a call ended without a result. -/
inductive Halt where
  | failed (error : CallError)
  | outOfTicks

/-- An activity in a world. What it did before it halted stays done. -/
abbrev Run (σ τ : Type) := EStateM Halt (World σ τ)

namespace Run

variable {σ τ α : Type}

/-- How an activity ends, and the world it leaves. -/
def outcome (act : Run σ τ α) (w : World σ τ) : Except Halt α × World σ τ :=
  match act w with
  | .ok a w => (.ok a, w)
  | .error h w => (.error h, w)

def fail (e : CallError) : Run σ τ α := throw (.failed e)

def check : Except CallError α → Run σ τ α
  | .ok a => pure a
  | .error e => fail e

def log (level : LogLevel) (text : String) : Run σ τ Unit :=
  modify fun w => { w with log := w.log ++ [⟨level, text⟩] }

/-- A log record that is made only if there is reason to. -/
def logWhen (reason : Bool) (level : LogLevel) (text : String) : Run σ τ Unit :=
  if reason then log level text else pure ()

/-- Passes a report to the display, which may add to the log. -/
def report (sink : ProgressSink τ) (e : ProgressEvent) : Run σ τ Unit :=
  modify fun w =>
    let (state, records) := sink.receive w.sink e
    { w with sink := state, log := w.log ++ records }

def drawId : Run σ τ RequestId :=
  modifyGet fun w =>
    let (id, counter) := w.counter.draw
    (id, { w with counter })

def offer (e : Engine σ) (r : Request) : Run σ τ (Except String Unit) :=
  modifyGet fun w =>
    let (answer, engine) := e.submit w.engine r
    (answer, { w with engine })

def tick (e : Engine σ) : Run σ τ (Except String (List Update)) :=
  modifyGet fun w =>
    let (answer, engine) := e.step w.engine
    (answer, { w with engine })

/-- Runs an activity to its end, whatever the end is. -/
def settle (act : Run σ τ α) : Run σ τ (Except Halt α) := fun w =>
  let (result, w) := act.outcome w
  .ok result w

def resume : Except Halt α → Run σ τ α
  | .ok a => pure a
  | .error h => throw h

/-! What each activity does to a world it is run in. -/

section Lemmas

variable {β : Type} (w : World σ τ)

theorem bind_apply (act : Run σ τ α) (next : α → Run σ τ β) :
    (act >>= next) w =
      match act w with
      | .ok a w' => next a w'
      | .error h w' => .error h w' := by
  cases h : act w <;> simp [bind, EStateM.bind, h]

@[simp]
theorem pure_apply (a : α) : (pure a : Run σ τ α) w = .ok a w := rfl

@[simp]
theorem get_apply : (get : Run σ τ (World σ τ)) w = .ok w w := rfl

@[simp]
theorem fail_apply (e : CallError) : (fail e : Run σ τ α) w = .error (.failed e) w := rfl

@[simp]
theorem check_ok_apply (a : α) : (check (.ok a) : Run σ τ α) w = .ok a w := rfl

@[simp]
theorem check_error_apply (e : CallError) :
    (check (.error e) : Run σ τ α) w = .error (.failed e) w := rfl

@[simp]
theorem log_apply (level : LogLevel) (text : String) :
    (log level text : Run σ τ Unit) w = .ok () { w with log := w.log ++ [⟨level, text⟩] } := rfl

@[simp]
theorem report_apply (sink : ProgressSink τ) (e : ProgressEvent) :
    (report sink e : Run σ τ Unit) w =
      .ok () { w with sink := (sink.receive w.sink e).1, log := w.log ++ (sink.receive w.sink e).2 } := rfl

@[simp]
theorem drawId_apply :
    (drawId : Run σ τ RequestId) w = .ok w.counter.peek { w with counter := w.counter.draw.2 } := rfl

@[simp]
theorem offer_apply (e : Engine σ) (r : Request) :
    (offer e r : Run σ τ (Except String Unit)) w =
      .ok (e.submit w.engine r).1 { w with engine := (e.submit w.engine r).2 } := rfl

@[simp]
theorem tick_apply (e : Engine σ) :
    (tick e : Run σ τ (Except String (List Update))) w =
      .ok (e.step w.engine).1 { w with engine := (e.step w.engine).2 } := rfl

@[simp]
theorem settle_apply (act : Run σ τ α) :
    settle act w = .ok (act.outcome w).1 (act.outcome w).2 := rfl

end Lemmas

end Run

end BatchInference
