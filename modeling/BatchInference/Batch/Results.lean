import BatchInference.Service

/-!
Working an engine until it is idle. Every finished update is kept, every other one dropped; at the end the kept
ones are put in the order of their request ids, those of one request in the order in which they came.
-/

namespace BatchInference

/-- Tokens accounted for so far in one drain. -/
structure TokenTotals where
  input : Nat := 0
  output : Nat := 0

/-- A rate of tokens per second. No clock is read here: of a rate it is only known whether it is zero. -/
def rateText (tokens : Nat) : String := if tokens = 0 then "0.00" else "#"

def TokenTotals.text (t : TokenTotals) : String :=
  "est. speed input: " ++ rateText t.input ++ " toks/s, output: " ++ rateText t.output ++ " toks/s"

namespace Service

variable {σ τ : Type}

/-- Reports finished updates in the order in which they came: a generation advances by its completions, a pooled
output by one. -/
def reportFinished (sink : ProgressSink τ) : List Update → TokenTotals → Run σ τ TokenTotals
  | [], totals => return totals
  | .generation g :: rest, totals => do
    let totals : TokenTotals := ⟨totals.input + g.numInputTokens, totals.output + g.numOutputTokens⟩
    Run.report sink (.status totals.text)
    Run.report sink (.advance g.outputs.length)
    reportFinished sink rest totals
  | .pooled _ :: rest, totals => do
    Run.report sink (.advance 1)
    reportFinished sink rest totals

/-- Steps the engine for as long as it has unfinished requests, at most `ticks` times; the finished updates in
the order in which they came. -/
def collect (svc : Service σ) (sink : ProgressSink τ) : (ticks : Nat) → TokenTotals → Run σ τ (List Update)
  | ticks, totals => do
    if svc.engine.hasUnfinished (← get).engine then
      match ticks with
      | 0 => throw .outOfTicks
      | ticks + 1 =>
        match ← Run.tick svc.engine with
        | .error reason => Run.fail (.engine (.reported reason))
        | .ok updates =>
          let finished := updates.filter (·.finished)
          let totals ← reportFinished sink finished totals
          return finished ++ (← svc.collect sink ticks totals)
    else return []

end Service

/-- Updates in the order of their request ids; updates of one request keep their order. -/
def Update.sorted (us : List Update) : List Update := us.mergeSort (fun a b => a.id.le b.id)

/-- Works the engine until it is idle; the finished updates in the order of their ids. The display is closed
also when the engine fails. -/
def Service.drain {σ τ : Type} (svc : Service σ) (ticks : Nat) (sink : ProgressSink τ) :
    Run σ τ (List Update) := do
  let unfinished := svc.engine.numUnfinished (← get).engine
  Run.log .debug ("Draining engine with " ++ toString unfinished ++ " unfinished requests")
  Run.report sink (.start "Processed prompts" unfinished)
  Run.report sink (.status (TokenTotals.text {}))
  let outcome ← Run.settle (svc.collect sink ticks {})
  Run.report sink .close
  let updates ← Run.resume outcome
  return Update.sorted updates

namespace Update

def toGeneration : Update → Except CallError Generation
  | .generation g => .ok g
  | .pooled p =>
    .error (.unexpectedOutput p.id OutputSort.generation.name OutputSort.pooled.name)

def toPooled : Update → Except CallError Pooled
  | .pooled p => .ok p
  | .generation g =>
    .error (.unexpectedOutput g.id OutputSort.pooled.name OutputSort.generation.name)

end Update

end BatchInference
