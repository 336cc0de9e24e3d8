import BatchInference.Proofs.Session.Asked

/-!
Watching a call changes nothing about it. A call writes to its display and to the log, and a search moreover says
more to a caller who watches; but no call reads either of them again. So what a call comes to, what it asks of its
engine, and the engine and the counter it leaves are the same for all who watch it, with whatever display, and however
requests are shown.
-/

namespace BatchInference

open Run

variable {σ τ τ' : Type}

/-- The same service with another way of showing requests, or with none. -/
def Service.loggedBy (svc : Service σ) (logger : Option RequestLogger) : Service σ := { svc with logger }

/-- How requests are shown is nothing to the arguments. -/
theorem BatchCall.batch_loggedBy (c : BatchCall) {svc : Service σ} (logger : Option RequestLogger)
    {d : Option SamplingParams} : c.batch (svc.loggedBy logger) d = c.batch svc d := by
  cases c <;> rfl

namespace Service

theorem recorded_loggedBy (svc : Service σ) (logger : Option RequestLogger) :
    (svc.loggedBy logger).recorded = svc.recorded.loggedBy logger := rfl

section Search

variable {svc : Service σ} {core mid after : Core σ} {ticks left : Nat} {params : BeamParams}
  {roots hs hs' : List Hypotheses} {steps : List (SearchStep σ)} {result : Except Halt (List Hypotheses)}
  {found : Except Halt (List (List BeamSequence))}

/-! The course of a search is that of its engine and tokenizer. -/

theorem Steps.loggedBy (h : svc.Steps ticks params steps core hs after hs') (logger : Option RequestLogger) :
    (svc.loggedBy logger).Steps ticks params steps core hs after hs' := by
  induction h with
  | none => exact .none
  | cons hbusy hstep _ ih => exact .cons hbusy hstep ih

theorem Stops.loggedBy (h : svc.Stops ticks params left core hs result after) (logger : Option RequestLogger) :
    (svc.loggedBy logger).Stops ticks params left core hs result after := by
  cases h with
  | outOfSteps hleft => exact .outOfSteps hleft
  | outOfBeams hidle => exact .outOfBeams hidle
  | failed hleft hbusy hstep => exact .failed hleft hbusy hstep

theorem Course.loggedBy (h : svc.Course ticks params core roots steps mid hs found after)
    (logger : Option RequestLogger) :
    (svc.loggedBy logger).Course ticks params core roots steps mid hs found after where
  length_le := h.length_le
  completes := h.completes.loggedBy logger
  stops := by
    obtain ⟨result, hstops, hfound⟩ := h.stops
    exact ⟨result, hstops.loggedBy logger, hfound⟩

end Search

variable {svc : Service σ} {w : World σ τ} {w' : World σ τ'} {after : Core σ} {ticks : Nat}
  {sink : Option (ProgressSink τ)} {result : Except Halt Answer}

theorem batchCall_watched {c : BatchCall} (hends : (svc.call ticks sink c.call).Ends w result after)
    (hw : w'.core = w.core) (logger : Option RequestLogger) (sink' : Option (ProgressSink τ')) :
    ((svc.loggedBy logger).call ticks sink' c.call).Ends w' result after := by
  cases hbatch : c.batch svc w.defaults with
  | error e =>
    obtain ⟨rfl, rfl⟩ := hends.unique (c.call_invalid ticks sink hbatch rfl)
    have hends' := c.call_invalid ticks sink' ((c.batch_loggedBy logger).trans hbatch) hw
    cases c <;> exact hends'
  | ok batch =>
    obtain ⟨rfl, rfl⟩ := hends.unique (c.call_ends ticks sink hbatch rfl rfl)
    have hends' := c.call_ends ticks sink' ((c.batch_loggedBy logger).trans hbatch) hw rfl
    cases c <;> exact hends'

theorem score_watched {left right : PromptInput} {options : ScoreOptions}
    (hends : (svc.call ticks sink (.score left right options)).Ends w result after) (hw : w'.core = w.core)
    (logger : Option RequestLogger) (sink' : Option (ProgressSink τ')) :
    ((svc.loggedBy logger).call ticks sink' (.score left right options)).Ends w' result after := by
  cases hrequest : svc.scoreRequest left right options with
  | error e =>
    have hrequest' : (svc.loggedBy logger).scoreRequest left right options = .error e := hrequest
    obtain ⟨rfl, rfl⟩ := hends.unique (score_asks_nothing hrequest).ends
    exact (score_invalid hrequest' hw).bind_error
  | ok request =>
    obtain ⟨lefts, rights, batch⟩ := request
    have hrequest' : (svc.loggedBy logger).scoreRequest left right options = .ok (lefts, rights, batch) := hrequest
    obtain ⟨rfl, rfl⟩ := hends.unique (score_asks_batch hrequest).ends
    exact (score_ends hrequest' hw).view Answer.scores

theorem beamSearch_watched {prompts : List Prompt} {params : BeamParams} {lora : Broadcast (Option LoraAdapter)}
    (hends : (svc.call ticks sink (.beamSearch prompts params lora)).Ends w result after) (hw : w'.core = w.core)
    (logger : Option RequestLogger) (sink' : Option (ProgressSink τ')) :
    ((svc.loggedBy logger).call ticks sink' (.beamSearch prompts params lora)).Ends w' result after := by
  cases hroots : svc.searchRoots prompts params lora with
  | error e =>
    have hroots' : (svc.loggedBy logger).searchRoots prompts params lora = .error e := hroots
    have hinvalid : (svc.call ticks sink (.beamSearch prompts params lora)).Ends w _ _ :=
      (beamSearch_invalid hroots rfl).bind_error
    obtain ⟨rfl, rfl⟩ := hends.unique hinvalid
    exact (beamSearch_invalid hroots' hw).bind_error
  | ok roots =>
    have hroots' : (svc.loggedBy logger).searchRoots prompts params lora = .ok roots := hroots
    have hsearch := (svc.beamSearch ticks prompts params lora sink).ends_outcome w
    obtain ⟨steps, mid, hs, hcourse⟩ := (ends_iff_exists_course hroots).mp hsearch
    obtain ⟨rfl, rfl⟩ := hends.unique (hsearch.view Answer.beams)
    rw [← hw] at hcourse
    have hsearch' : ((svc.loggedBy logger).beamSearch ticks prompts params lora sink').Ends w' _ _ :=
      (ends_iff_exists_course hroots').mpr ⟨steps, mid, hs, hcourse.loggedBy logger⟩
    exact hsearch'.view Answer.beams

/-- A call ends for one who watches it as it does for another. -/
theorem call_watched {call : Call} (hends : (svc.call ticks sink call).Ends w result after) (hw : w'.core = w.core)
    (logger : Option RequestLogger) (sink' : Option (ProgressSink τ')) :
    ((svc.loggedBy logger).call ticks sink' call).Ends w' result after := by
  cases call with
  | generate input options => exact batchCall_watched (c := .generate input options) hends hw logger sink'
  | encode input options => exact batchCall_watched (c := .encode input options) hends hw logger sink'
  | embed input options => exact batchCall_watched (c := .embed input options) hends hw logger sink'
  | classify input options => exact batchCall_watched (c := .classify input options) hends hw logger sink'
  | score left right options => exact score_watched hends hw logger sink'
  | beamSearch prompts params lora => exact beamSearch_watched hends hw logger sink'

/-- For every call there is one result, one sequence of requests offered and steps taken, and one state of the engine
and the counter afterwards, whoever watches: with no display or with any, in whatever state it is, with no request
logger or with any, and whatever the log holds already. -/
theorem watching_changes_nothing (svc : Service σ) (ticks : Nat) (call : Call) (core : Core σ) :
    ∃ asked result after, ∀ {τ : Type} (logger : Option RequestLogger) (sink : Option (ProgressSink τ))
      (w : World σ τ), w.core = core → (svc.loggedBy logger).CallAsks ticks sink call w asked result after := by
  let unwatched : World σ Unit :=
    { engine := core.engine, counter := core.counter, sink := (), defaults := core.defaults }
  obtain ⟨asked, result, after, hasks⟩ := svc.exists_callAsks ticks none call unwatched
  refine ⟨asked, result, after, ?_⟩
  intro τ logger sink w hw
  refine ⟨call_watched hasks.ends hw logger sink, ?_, ?_⟩
  · intro uses
    have hrecorded : (w.recorded uses).core = (unwatched.recorded uses).core := congrArg (Core.recorded · uses) hw
    rw [recorded_loggedBy]
    exact call_watched (hasks.recorded uses) hrecorded logger sink
  · rw [show w.counter = core.counter from congrArg Core.counter hw]
    exact hasks.asks

end Service

end BatchInference
