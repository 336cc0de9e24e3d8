import BatchInference.Proofs.Batch.Conventions
import BatchInference.Proofs.Session.Chronicle
import BatchInference.Proofs.Session.Refusals

/-!
Calling conventions over sessions. Calls that run one batch and are checked to the same requests are the same call:
they ask the same of the engine, leave it and the counter alike, and return the same. So are generate calls that ask
for the same thing in different ways, also where one of them leaves its parameters to the model: no call of a session
ever remembers other defaults than the model's own.
-/

namespace BatchInference

open Run

variable {σ τ τ' : Type}

namespace Service

variable {svc : Service σ} {batch batch' : Batch}

/-! A batch is told by what it is checked to, and remembered defaults are nothing to it. -/

theorem batchEnd_congr (h : batch.prepare svc.model = batch'.prepare svc.model) (ticks : Nat) (core : Core σ)
    (d : Option SamplingParams) :
    svc.batchEnd ticks batch' { core with defaults := d } =
      ((svc.batchEnd ticks batch core).1, { (svc.batchEnd ticks batch core).2 with defaults := d }) := by
  unfold batchEnd
  rw [← h]
  cases batch.prepare svc.model with
  | error e => rfl
  | ok pending =>
    dsimp only
    cases (svc.engine.offerAll (core.counter.number pending) core.engine).refusal <;> rfl

theorem batchUses_congr (h : batch.prepare svc.model = batch'.prepare svc.model) (ticks : Nat) (core : Core σ)
    (d : Option SamplingParams) :
    svc.batchUses ticks batch' { core with defaults := d } = svc.batchUses ticks batch core := by
  unfold batchUses
  rw [← h]

theorem defaults_batchEnd (svc : Service σ) (ticks : Nat) (batch : Batch) (core : Core σ) :
    (svc.batchEnd ticks batch core).2.defaults = core.defaults := by
  have hsame : batch.prepare svc.model = batch.prepare svc.model := rfl
  exact congrArg (fun outcome => outcome.2.defaults) (batchEnd_congr hsame ticks core core.defaults)

end Service

namespace BatchCall

variable {c c' : BatchCall} {svc : Service σ} {w : World σ τ} {e : CallError}

/-- A call that fails a check asks nothing. -/
theorem asks_of_validate_error (h : c.validate svc w.defaults = .error e) (ticks : Nat)
    (sink : Option (ProgressSink τ)) :
    ∃ d, svc.CallAsks ticks sink c.call w [] (.error (.failed e)) ⟨w.engine, w.counter, d⟩ := by
  rcases bind_eq_error.mp h with hbatch | ⟨batch, hbatch, hprepare⟩
  · exact ⟨_, Service.batchCall_asks_nothing hbatch⟩
  · have hasks : svc.CallAsks ticks sink c.call w _ _ _ := Service.batchCall_asks_batch hbatch rfl
    rw [Service.batchUses_of_prepare_error hprepare, Service.batchEnd_of_prepare_error hprepare] at hasks
    exact ⟨_, hasks⟩

/-- Calls with one view of their updates that are checked to the same requests, or to the same error, are the same
call, from worlds that differ in what is remembered or shown at most. -/
theorem alike_of_validate_eq (w : World σ τ) (w' : World σ τ') (hanswer : c.answer = c'.answer)
    (hvalidate : c.validate svc w.defaults = c'.validate svc w'.defaults) (hengine : w.engine = w'.engine)
    (hcounter : w.counter = w'.counter) (ticks : Nat) (sink : Option (ProgressSink τ))
    (sink' : Option (ProgressSink τ')) :
    ∃ asked result after after', svc.CallAsks ticks sink c.call w asked result after ∧
      svc.CallAsks ticks sink' c'.call w' asked result after' ∧ after.engine = after'.engine ∧
      after.counter = after'.counter := by
  cases hchecked : c.validate svc w.defaults with
  | error e =>
    obtain ⟨d, hasks⟩ := asks_of_validate_error hchecked ticks sink
    obtain ⟨d', hasks'⟩ := asks_of_validate_error (hvalidate ▸ hchecked) ticks sink'
    exact ⟨_, _, _, _, hasks, hasks', hengine, hcounter⟩
  | ok pending =>
    obtain ⟨batch, hbatch, hprepare⟩ := bind_eq_ok.mp hchecked
    obtain ⟨batch', hbatch', hprepare'⟩ := bind_eq_ok.mp (hvalidate ▸ hchecked)
    have hsame : batch.prepare svc.model = batch'.prepare svc.model := hprepare.trans hprepare'.symm
    let core : Core σ := ⟨w.engine, w.counter, c.rememberedAfter svc w.defaults⟩
    have hcore' : { core with defaults := c'.rememberedAfter svc w'.defaults } =
        (⟨w'.engine, w'.counter, c'.rememberedAfter svc w'.defaults⟩ : Core σ) := by
      rw [← hengine, ← hcounter]
    have hasks : svc.CallAsks ticks sink c.call w _ _ _ := Service.batchCall_asks_batch hbatch rfl
    have hasks' : svc.CallAsks ticks sink' c'.call w' _ _ _ := Service.batchCall_asks_batch hbatch' hcore'
    rw [Service.batchUses_congr hsame, Service.batchEnd_congr hsame, ← hanswer] at hasks'
    exact ⟨_, _, _, _, hasks, hasks', rfl, rfl⟩

end BatchCall

/-! No call remembers other defaults than those of its model. -/

namespace Service

variable {svc : Service σ} {w : World σ τ} {core after : Core σ} {ticks left : Nat}
  {sink : Option (ProgressSink τ)} {params : BeamParams} {hs hs' : List Hypotheses} {steps : List (SearchStep σ)}
  {d : Option SamplingParams} {call : Call} {result : Except Halt Answer}

theorem defaults_stepEnd (svc : Service σ) (ticks : Nat) (params : BeamParams) (beams : List BeamSequence)
    (core : Core σ) : (svc.stepEnd ticks params beams core).2.defaults = core.defaults :=
  svc.defaults_batchEnd ticks _ core

theorem Steps.defaults (h : svc.Steps ticks params steps core hs after hs') : after.defaults = core.defaults := by
  induction h with
  | none => rfl
  | @cons _ core _ _ hs _ _ _ hstep _ ih =>
    have hfirst := svc.defaults_stepEnd ticks params (hs.flatMap (·.active)) core
    rw [hstep] at hfirst
    exact ih.trans hfirst

theorem Stops.defaults {result : Except Halt (List Hypotheses)} (h : svc.Stops ticks params left core hs result after) :
    after.defaults = core.defaults := by
  cases h with
  | outOfSteps => rfl
  | outOfBeams => rfl
  | failed _ _ hstep =>
    have hfailed := svc.defaults_stepEnd ticks params (hs.flatMap (·.active)) core
    rwa [hstep] at hfailed

theorem Remembers.rememberedAfter (h : svc.Remembers d) (params : Option (Broadcast SamplingParams)) :
    svc.Remembers (svc.rememberedAfter params d) := by
  cases params with
  | some _ => exact h
  | none =>
    intro p hp
    rw [← Option.some.inj hp]
    exact h.defaultsFrom

theorem Remembers.rememberedRefused (h : svc.Remembers d) (input : PromptInput) (options : GenerateOptions) :
    svc.Remembers (svc.rememberedRefused d input options) := by
  unfold Service.rememberedRefused
  split
  · exact h.rememberedAfter options.params
  · exact h

theorem batchCall_remembers {c : BatchCall} (hends : (svc.call ticks sink c.call).Ends w result after)
    (h : svc.Remembers w.defaults) : svc.Remembers after.defaults := by
  cases hbatch : c.batch svc w.defaults with
  | error e =>
    obtain ⟨_, rfl⟩ := hends.unique (c.call_invalid ticks sink hbatch rfl)
    cases c with
    | generate input options => exact h.rememberedRefused input options
    | encode | embed | classify => exact h
  | ok batch =>
    obtain ⟨_, rfl⟩ := hends.unique (c.call_ends ticks sink hbatch rfl rfl)
    rw [defaults_batchEnd]
    cases c with
    | generate input options => exact h.rememberedAfter options.params
    | encode | embed | classify => exact h

/-- Every call, whatever comes of it, remembers the defaults of the model or none. -/
theorem call_remembers (hends : (svc.call ticks sink call).Ends w result after) (h : svc.Remembers w.defaults) :
    svc.Remembers after.defaults := by
  cases call with
  | generate input options => exact batchCall_remembers (c := .generate input options) hends h
  | encode input options => exact batchCall_remembers (c := .encode input options) hends h
  | embed input options => exact batchCall_remembers (c := .embed input options) hends h
  | classify input options => exact batchCall_remembers (c := .classify input options) hends h
  | score left right options =>
    cases hrequest : svc.scoreRequest left right options with
    | error e =>
      obtain ⟨_, rfl⟩ := hends.unique (score_asks_nothing hrequest).ends
      exact h
    | ok request =>
      obtain ⟨lefts, rights, batch⟩ := request
      obtain ⟨_, rfl⟩ := hends.unique (score_asks_batch hrequest).ends
      rwa [defaults_batchEnd]
  | beamSearch prompts params lora =>
    cases hroots : svc.searchRoots prompts params lora with
    | error e =>
      have hinvalid : (svc.call ticks sink (.beamSearch prompts params lora)).Ends w _ _ :=
        (beamSearch_invalid hroots rfl).bind_error
      obtain ⟨_, rfl⟩ := hends.unique hinvalid
      exact h
    | ok roots =>
      have hsearch := (svc.beamSearch ticks prompts params lora sink).ends_outcome w
      obtain ⟨steps, mid, hs, hcourse⟩ := (ends_iff_exists_course hroots).mp hsearch
      obtain ⟨_, rfl⟩ := hends.unique (hsearch.view Answer.beams)
      obtain ⟨_, hstops, _⟩ := hcourse.stops
      rw [hstops.defaults, hcourse.completes.defaults]
      exact h

end Service

namespace Session

variable {start session : Session σ} {records : List CallRecord} {index : Nat} {station : Station σ}
  {meant : Generating} {input input' : PromptInput} {options options' : GenerateOptions}

/-- Where no station had other defaults than its model's when a session began, none ever has. -/
theorem Chronicle.remembers (h : Chronicle start records session)
    (hstart : ∀ station ∈ start.stations, station.service.Remembers station.defaults) :
    ∀ station ∈ session.stations, station.service.Remembers station.defaults := by
  induction h with
  | start => exact hstart
  | @call _ _ s there _ _ _ _ visited ticks sink shown call hthere ends ih =>
    obtain ⟨_, _, _, hasks⟩ := there.service.exists_callAsks ticks sink call (there.world s.counter shown)
    obtain ⟨_, rfl, _⟩ := hasks.unique ends
    intro station hstation
    rcases List.mem_or_eq_of_mem_set hstation with hkept | rfl
    · exact ih station hkept
    · exact Service.call_remembers hasks.ends (ih there (List.mem_of_getElem? hthere))

/-- After any calls of a session that began with no defaults remembered, generate calls that ask for the same thing
without truncation are the same call, however they are put: they return the same, ask the same of the engine, and
leave it and the counter alike. -/
theorem generate_same_however_put (h : Chronicle start records session)
    (hfresh : ∀ station ∈ start.stations, station.defaults = none) (hstation : session.stations[index]? = some station)
    (hwhole : meant.params.truncatePromptTokens = none) (hput : station.service.Puts meant input options)
    (hput' : station.service.Puts meant input' options') (ticks : Nat) (sink : Option (ProgressSink τ))
    (sink' : Option (ProgressSink τ')) (shown : τ) (shown' : τ') :
    ∃ asked result after after',
      station.service.CallAsks ticks sink (.generate input options) (station.world session.counter shown)
        asked result after ∧
      station.service.CallAsks ticks sink' (.generate input' options') (station.world session.counter shown')
        asked result after' ∧
      after.engine = after'.engine ∧ after.counter = after'.counter := by
  have hremembers : station.service.Remembers station.defaults := by
    refine h.remembers ?_ station (List.mem_of_getElem? hstation)
    intro first hfirst p hp
    rw [hfresh first hfirst] at hp
    cases hp
  have hvalidate := (hput.validate hremembers hwhole).trans (hput'.validate hremembers hwhole).symm
  have hanswer : (BatchCall.generate input options).answer = (BatchCall.generate input' options').answer := rfl
  exact BatchCall.alike_of_validate_eq (station.world session.counter shown) (station.world session.counter shown')
    hanswer hvalidate rfl rfl ticks sink sink'

def refusingSession : Session Scripted.State := ⟨⟨0⟩, [refusingStation]⟩

/-- The call for one prompt that leaves everything else to the model. -/
def plainPrompt : BatchCall := .generate (.single (.ofText "c")) {}

def plainRecord : CallRecord := ⟨0, [.offered (textRequest "c" 0), .stepped]⟩

/-- The station after that call. -/
def rememberingStation : Station Scripted.State :=
  refusingStation.left ⟨{ offers := 1, steps := 1, accepted := [textRequest "c" 0] }, ⟨1⟩, some {}⟩

theorem chronicle_to_rememberingStation : Chronicle refusingSession [plainRecord] ⟨⟨1⟩, [rememberingStation]⟩ := by
  have hbatch : plainPrompt.batch refusingStation.service (refusingStation.world ⟨0⟩ ()).defaults =
      .ok { prompts := [.ofText "c"], params := .one (.sampling {}) } := rfl
  obtain ⟨result, hasks⟩ : ∃ result, refusingStation.service.CallAsks 1 (none : Option (ProgressSink Unit))
      plainPrompt.call (refusingStation.world ⟨0⟩ ()) plainRecord.uses result
      ⟨{ offers := 1, steps := 1, accepted := [textRequest "c" 0] }, ⟨1⟩, some {}⟩ :=
    ⟨_, Service.batchCall_asks_batch hbatch rfl⟩
  have hcalled : Chronicle refusingSession _ _ := .call .start 0 1 none () plainPrompt.call rfl (hasks.recorded _)
  exact hcalled

def twoTexts : Generating := ⟨[.ofText "a", .ofText "b"], {}, none, none, none, none⟩

/-- Two texts with all defaults, and the same with everything written out for each of them: both calls are refused
by the engine alike. -/
theorem two_texts_put_twice : Chronicle refusingSession [plainRecord] ⟨⟨1⟩, [rememberingStation]⟩ ∧
    rememberingStation.defaults = some {} ∧
    ∃ asked result after after',
      rememberingStation.service.CallAsks 1 none (.generate (.batch [.ofText "a", .ofText "b"]) {})
        (rememberingStation.world ⟨1⟩ ()) asked result after ∧
      rememberingStation.service.CallAsks 1 none
        (.generate (.split (some ["a", "b"]) (some [[1], [2]]))
          { params := some (.each [{}, {}]), lora := .each [none, none], priority := some [0, 0] })
        (rememberingStation.world ⟨1⟩ ()) asked result after' ∧
      after.engine = after'.engine ∧ after.counter = after'.counter := by
  have hfresh : ∀ station ∈ refusingSession.stations, station.defaults = none := by
    simp [refusingSession, refusingStation]
  have hput : rememberingStation.service.Puts twoTexts (.batch [.ofText "a", .ofText "b"]) {} :=
    ⟨.batch _, .inr ⟨rfl, rfl⟩, .one, .absent, rfl, rfl, rfl⟩
  have hput' : rememberingStation.service.Puts twoTexts (.split (some ["a", "b"]) (some [[1], [2]]))
      { params := some (.each [{}, {}]), lora := .each [none, none], priority := some [0, 0] } :=
    ⟨@PromptInput.Carries.textsFirst ["a", "b"] _ rfl, .inl ⟨_, rfl, .each Nat.two_pos⟩, .each Nat.two_pos, .given,
      rfl, rfl, rfl⟩
  have hthere : (⟨⟨1⟩, [rememberingStation]⟩ : Session Scripted.State).stations[0]? = some rememberingStation := rfl
  exact ⟨chronicle_to_rememberingStation, rfl,
    generate_same_however_put chronicle_to_rememberingStation hfresh hthere rfl hput hput' 1 none none () ()⟩

end Session

end BatchInference
