import BatchInference.Log

/-!
Progress reports. A long call reports in phases, each begun with a total, advanced and closed; where the reports
go is the caller's choice, and what becomes of them never comes back to the call.
-/

namespace BatchInference

inductive ProgressEvent where
  /-- Begins a phase of `total` units. -/
  | start (description : String) (total : Nat)
  | advance (n : Nat)
  /-- Replaces the text shown beside the count. -/
  | status (text : String)
  | close
  deriving DecidableEq, Repr

/-- Where progress reports go: a state that takes them in, and the log records it makes of them. -/
structure ProgressSink (τ : Type) where
  receive : τ → ProgressEvent → τ × List LogRecord

namespace ProgressSink

/-- Takes no notice. -/
def silent (τ : Type) : ProgressSink τ := ⟨fun s _ => (s, [])⟩

def recorder : ProgressSink (List ProgressEvent) := ⟨fun seen e => (seen ++ [e], [])⟩

end ProgressSink

/-- Progress as log records: one whenever the count passes a multiple of `every`, and one when a phase closes. -/
structure LogProgress where
  description : String := ""
  total : Nat := 0
  done : Nat := 0
  status : String := ""
  every : Nat := 1
  every_pos : 1 ≤ every := by decide

namespace LogProgress

/-- With an interval of zero taken as one. -/
def ofInterval (every : Nat) : LogProgress :=
  { every := max every 1, every_pos := Nat.le_max_right _ _ }

def tally (p : LogProgress) : String := toString p.done ++ "/" ++ toString p.total ++ " " ++ p.status

def advance (p : LogProgress) (n : Nat) : LogProgress × List LogRecord :=
  let next := { p with done := p.done + n }
  (next, if next.done / p.every ≠ p.done / p.every then
      [⟨.info, p.description ++ ": " ++ next.tally⟩]
    else [])

def receive (p : LogProgress) : ProgressEvent → LogProgress × List LogRecord
  | .start description total => ({ p with description, total, done := 0, status := "" }, [])
  | .advance n => p.advance n
  | .status text => ({ p with status := text }, [])
  | .close => (p, [⟨.info, p.description ++ ": finished " ++ p.tally⟩])

def sink : ProgressSink LogProgress := ⟨receive⟩

end LogProgress

end BatchInference
