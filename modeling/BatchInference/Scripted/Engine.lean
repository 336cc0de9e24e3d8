import BatchInference.Scripted.Answers

/-!
A rehearsed engine: how long each request takes, which requests it refuses, on which steps it fails and what it
answers are all laid down beforehand. An engine may also follow a list of steps word for word, whatever it was
asked to run.
-/

namespace BatchInference.Scripted

/-- One step laid down word for word. -/
inductive ScriptEntry where
  | fails (text : String)
  | reports (updates : List Update)

structure Plan where
  model : ModelConfig := {}
  answers : Answers
  alphabet : Alphabet
  /-- Whether updates of one step come in the order of submission, and not the other way round. -/
  forward : Bool := false
  /-- Numbers of the offers that are refused, counted from zero. -/
  refused : List Nat := []
  /-- Numbers of the steps that fail, counted from one. -/
  failing : List Nat := []
  /-- How many ticks the requests take, in turn. -/
  ticks : List Nat := []
  /-- Requests that are dropped without a finished update. -/
  lost : List RequestId := []
  /-- Requests whose last update comes twice. -/
  doubled : List RequestId := []
  /-- Requests that are answered with the other kind of output. -/
  mistaken : List RequestId := []
  /-- Whether the engine follows a script and runs nothing. -/
  scripted : Bool := false

/-- A request at work and the ticks it still takes. -/
structure Job where
  request : Request
  ticksLeft : Nat

structure State where
  offers : Nat := 0
  steps : Nat := 0
  accepted : List Request := []
  jobs : List Job := []
  script : List ScriptEntry := []

namespace Plan

variable (plan : Plan)

/-- How many ticks the request accepted after `earlier` others takes, at least one. -/
def ticksOf (earlier : Nat) : Nat := max 1 ((plan.ticks[earlier % plan.ticks.length]?).getD 1)

def submit (s : State) (r : Request) : Except String Unit × State :=
  let counted := { s with offers := s.offers + 1 }
  if plan.refused.contains s.offers then (.error ("rejected request " ++ r.id.text), counted)
  else
    let jobs := if plan.scripted then s.jobs else s.jobs ++ [⟨r, plan.ticksOf s.accepted.length⟩]
    (.ok (), { counted with accepted := s.accepted ++ [r], jobs })

/-- The updates on a job that has just worked one tick. -/
def updatesOf (job : Job) : List Update :=
  let r := job.request
  let last := job.ticksLeft = 0
  let update :=
    plan.answers.update plan.alphabet r (plan.mistaken.contains r.id) (last && !plan.lost.contains r.id)
  if last && plan.doubled.contains r.id then [update, update] else [update]

def work (s : State) : List Update × State :=
  let jobs := s.jobs.map fun job => { job with ticksLeft := job.ticksLeft - 1 }
  let updates := jobs.flatMap plan.updatesOf
  (if plan.forward then updates else updates.reverse, { s with jobs := jobs.filter (0 < ·.ticksLeft) })

def recite (s : State) : Except String (List Update) × State :=
  match s.script with
  | [] => (.ok [], s)
  | .fails text :: rest => (.error text, { s with script := rest })
  | .reports updates :: rest => (.ok updates, { s with script := rest })

def step (s : State) : Except String (List Update) × State :=
  let s := { s with steps := s.steps + 1 }
  if plan.failing.contains s.steps then (.error ("engine failure on step " ++ toString s.steps), s)
  else if plan.scripted then recite s
  else
    let (updates, s) := plan.work s
    (.ok updates, s)

def numUnfinished (s : State) : Nat := if plan.scripted then s.script.length else s.jobs.length

def engine : Engine State where
  model := plan.model
  submit := plan.submit
  step := plan.step
  hasUnfinished s := 0 < plan.numUnfinished s
  numUnfinished := plan.numUnfinished

end Plan

end BatchInference.Scripted
