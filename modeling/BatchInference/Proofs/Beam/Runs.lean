import BatchInference.Proofs.Batch.Recording
import BatchInference.Proofs.Beam.Selection
import BatchInference.Proofs.Scripted.Shown

/-!
What a search goes through. A search has one course: the steps it completes and how it stops after them. In it each
prompt goes through a run of its own, with the prompt's share of the results of every step; and an engine that keeps
a record of what it is asked shows in it the requests of every step, those of a step that fails included.
-/

namespace BatchInference

namespace SearchStep

variable {σ : Type}

/-- The results that a step handed to prompt number `i`. -/
def handed (i : Nat) (s : SearchStep σ) : List Generation :=
  match s.hypotheses[i]? with
  | none => []
  | some h => Hypotheses.share s.hypotheses s.results i h

/-- What a step asks of the engine. -/
def uses (svc : Service σ) (ticks : Nat) (params : BeamParams) (s : SearchStep σ) : List EngineUse :=
  svc.batchUses ticks (Service.beamBatch params s.beams) s.core

end SearchStep

namespace Service

variable {σ τ : Type} {svc : Service σ} {w : World σ τ} {core mid mid' after after' : Core σ}
  {ticks left k : Nat} {params : BeamParams} {prompts : List Prompt}
  {lora : Broadcast (Option LoraAdapter)} {sink : Option (ProgressSink τ)}
  {beams : List BeamSequence} {roots hs hs' state : List Hypotheses}
  {steps steps' : List (SearchStep σ)} {result : Except Halt (List Hypotheses)}
  {found : Except Halt (List (List BeamSequence))}

/-- The searches of all prompts before every completed step and after the last. -/
def searchStates (steps : List (SearchStep σ)) (hs : List Hypotheses) : List (List Hypotheses) :=
  steps.map (·.hypotheses) ++ [hs]

theorem getElem?_searchStates_length (steps : List (SearchStep σ)) (hs : List Hypotheses) :
    (searchStates steps hs)[steps.length]? = some hs := by
  simp [searchStates]

/-- What each of several searches becomes in completed steps depends on its own share of the results. -/
theorem Steps.getElem?_eq (h : svc.Steps ticks params steps core hs after hs') (i : Nat) :
    hs'[i]? = hs[i]?.map fun g =>
      (steps.map (·.handed i)).foldl (fun g results => g.advance (svc.beamRule params) results) g := by
  induction h with
  | none => simp
  | @cons steps core _ _ hs _ results _ _ _ ih =>
    rw [ih, Hypotheses.getElem?_advanceAll]
    cases hg : hs[i]? with
    | none => rfl
    | some g => simp [SearchStep.handed, hg]

/-- The states of a search are reached by its completed steps, one after another. -/
theorem Steps.of_state (h : svc.Steps ticks params steps core hs after hs')
    (hstate : (searchStates steps hs')[k]? = some state) :
    k ≤ steps.length ∧ ∃ mid, svc.Steps ticks params (steps.take k) core hs mid state := by
  induction h generalizing k with
  | none =>
    cases k with
    | zero =>
      cases hstate
      exact ⟨Nat.le_refl 0, _, .none⟩
    | succ k => simp [searchStates] at hstate
  | cons hbusy hstep _ ih =>
    cases k with
    | zero =>
      cases hstate
      exact ⟨Nat.zero_le _, _, .none⟩
    | succ k =>
      obtain ⟨hk, mid, hsteps⟩ := ih hstate
      exact ⟨Nat.succ_le_succ hk, mid, .cons hbusy hstep hsteps⟩

/-- Every state but the first is what a completed step made of the state before it. -/
theorem Steps.state_succ (h : svc.Steps ticks params steps core hs after hs')
    (hstate : (searchStates steps hs')[k + 1]? = some state) :
    ∃ s ∈ steps, state = Hypotheses.advanceAll (svc.beamRule params) s.hypotheses s.results := by
  induction h generalizing k with
  | none => simp [searchStates] at hstate
  | @cons steps core _ _ hs hs' results _ _ rest ih =>
    cases k with
    | zero =>
      refine ⟨⟨core, hs, results⟩, List.mem_cons_self, ?_⟩
      cases rest with
      | none => exact (Option.some.inj hstate).symm
      | cons => exact (Option.some.inj hstate).symm
    | succ k =>
      obtain ⟨s, hs, hs'⟩ := ih hstate
      exact ⟨s, List.mem_cons_of_mem _ hs, hs'⟩

/-- After any number of steps, the search of every prompt is where as many results have brought it from the prompt
with its adapter. -/
theorem Steps.forall₂_run_from (h : svc.Steps ticks params steps core roots after hs)
    (hroots : svc.searchRoots prompts params lora = .ok roots) {loras : List (Option LoraAdapter)}
    (hloras : lora.resolve "lora_request" prompts.length = .ok loras)
    (hstate : (searchStates steps hs)[k]? = some state) :
    List.Forall₂ (fun p g => ∃ root rs, BeamSequence.ofPrompt svc.tokenizer p.1 p.2 = .ok root ∧ rs.length = k ∧
      g = .run (svc.beamRule params) root rs) (prompts.zip loras) state := by
  obtain ⟨_, _, loras', starts, hloras', hstarts, rfl⟩ := searchRoots_eq_ok.mp hroots
  cases hloras.symm.trans hloras'
  obtain ⟨hk, mid, hsteps⟩ := h.of_state hstate
  have hlength : state.length = starts.length := by
    rw [hsteps.length_eq, List.length_map]
  refine List.forall₂_iff_get.mpr ⟨hstarts.length_eq.trans hlength.symm, ?_⟩
  intro i hi hi'
  have hstart := hlength ▸ hi'
  refine ⟨starts[i], (steps.take k).map (·.handed i), (List.forall₂_iff_get.mp hstarts).2 i hi hstart, ?_, ?_⟩
  · rw [List.length_map, List.length_take, Nat.min_eq_left hk]
  · have hg := hsteps.getElem?_eq i
    rw [List.getElem?_eq_getElem hi', List.getElem?_map, List.getElem?_eq_getElem hstart] at hg
    exact Option.some.inj hg

/-- The same where the adapters do not matter. -/
theorem Steps.forall₂_run (h : svc.Steps ticks params steps core roots after hs)
    (hroots : svc.searchRoots prompts params lora = .ok roots) (hstate : (searchStates steps hs)[k]? = some state) :
    List.Forall₂ (fun prompt g => ∃ root rs,
      (∃ adapter, BeamSequence.ofPrompt svc.tokenizer prompt adapter = .ok root) ∧ rs.length = k ∧
        g = .run (svc.beamRule params) root rs) prompts state := by
  obtain ⟨_, _, loras, _, hloras, _⟩ := searchRoots_eq_ok.mp hroots
  have hlength : loras.length = prompts.length := Broadcast.length_resolve hloras
  have hprompts : (prompts.zip loras).map (·.1) = prompts := List.map_fst_zip (by omega)
  rw [← hprompts, List.forall₂_map_left_iff]
  refine (h.forall₂_run_from hroots hloras hstate).imp ?_
  rintro p g ⟨root, rs, hroot, hrun⟩
  exact ⟨root, rs, ⟨p.2, hroot⟩, hrun⟩

/-! The course of a search as a whole. -/

/-- A search takes these steps, from the core and the searches it starts with to those where it stops, and ends with
what it has found then. -/
structure Course (svc : Service σ) (ticks : Nat) (params : BeamParams) (core : Core σ) (roots : List Hypotheses)
    (steps : List (SearchStep σ)) (mid : Core σ) (hs : List Hypotheses)
    (found : Except Halt (List (List BeamSequence))) (after : Core σ) : Prop where
  length_le : steps.length ≤ params.maxTokens
  completes : svc.Steps ticks params steps core roots mid hs
  stops : ∃ result, svc.Stops ticks params (params.maxTokens - steps.length) mid hs result after ∧
    found = result.map fun hs => hs.map (·.finish (svc.beamRule params) svc.tokenizer)

/-- Every search whose arguments pass has a course, and ends as its course says. -/
theorem ends_iff_exists_course (hroots : svc.searchRoots prompts params lora = .ok roots) :
    (svc.beamSearch ticks prompts params lora sink).Ends w found after ↔
      ∃ steps mid hs, svc.Course ticks params w.core roots steps mid hs found after := by
  constructor
  · intro h
    obtain ⟨steps, left, mid, hs, result, hlength, hsteps, hstops, hfound⟩ := (beamSearch_ends_iff hroots rfl).mp h
    have hleft : left = params.maxTokens - steps.length := by omega
    exact ⟨steps, mid, hs, by omega, hsteps, result, hleft ▸ hstops, hfound⟩
  · rintro ⟨steps, mid, hs, hlength, hsteps, result, hstops, hfound⟩
    exact (beamSearch_ends_iff hroots rfl).mpr ⟨steps, _, mid, hs, result, by omega, hsteps, hstops, hfound⟩

/-- A search has only one course. -/
theorem Course.unique (h : svc.Course ticks params core roots steps mid hs found after)
    {found' : Except Halt (List (List BeamSequence))}
    (h' : svc.Course ticks params core roots steps' mid' hs' found' after') :
    steps = steps' ∧ mid = mid' ∧ hs = hs' := by
  obtain ⟨result, hstops, _⟩ := h.stops
  obtain ⟨result', hstops', _⟩ := h'.stops
  have hlength := h.length_le
  have hlength' := h'.length_le
  exact h.completes.unique hstops h'.completes hstops' (by omega)

/-- A search that finds something stops with the searches it has come to. -/
theorem Course.of_found {kept : List (List BeamSequence)}
    (h : svc.Course ticks params core roots steps mid hs (.ok kept) after) :
    (steps.length = params.maxTokens ∨ hs.flatMap (·.active) = []) ∧
      kept = hs.map (·.finish (svc.beamRule params) svc.tokenizer) := by
  obtain ⟨result, hstops, hfound⟩ := h.stops
  have hle := h.length_le
  cases hstops with
  | outOfSteps hleft => exact ⟨.inl (by omega), Except.ok.inj hfound⟩
  | outOfBeams hidle => exact ⟨.inr hidle, Except.ok.inj hfound⟩
  | failed => cases hfound

/-! What a search asks of the engine. -/

/-- What a search that stops asks of the engine in doing so: nothing, unless it stops because a step fails. -/
def stopUses (svc : Service σ) (ticks : Nat) (params : BeamParams) (left : Nat) (core : Core σ)
    (hs : List Hypotheses) : List EngineUse :=
  if left = 0 ∨ hs.flatMap (·.active) = [] then []
  else svc.batchUses ticks (beamBatch params (hs.flatMap (·.active))) core

/-- What a search asks of the engine from its first step until it stops. -/
def searchUses (svc : Service σ) (ticks : Nat) (params : BeamParams) (steps : List (SearchStep σ)) (mid : Core σ)
    (hs : List Hypotheses) : List EngineUse :=
  steps.flatMap (·.uses svc ticks params) ++ svc.stopUses ticks params (params.maxTokens - steps.length) mid hs

theorem stepEnd_recorded (svc : Service σ) (ticks : Nat) (params : BeamParams) (beams : List BeamSequence)
    (core : Core σ) (uses : List EngineUse) :
    svc.recorded.stepEnd ticks params beams (core.recorded uses) =
      ((svc.stepEnd ticks params beams core).1,
        (svc.stepEnd ticks params beams core).2.recorded
          (uses ++ svc.batchUses ticks (beamBatch params beams) core)) := by
  simp only [stepEnd, batchEnd_recorded]

theorem Steps.recorded (h : svc.Steps ticks params steps core hs after hs') (uses : List EngineUse) :
    ∃ steps', steps'.length = steps.length ∧
      svc.recorded.Steps ticks params steps' (core.recorded uses) hs
        (after.recorded (uses ++ steps.flatMap (·.uses svc ticks params))) hs' := by
  induction h generalizing uses with
  | none =>
    rw [List.flatMap_nil, List.append_nil]
    exact ⟨[], rfl, .none⟩
  | @cons steps core mid after hs hs' results hbusy hstep _ ih =>
    obtain ⟨steps', hlength, hsteps⟩ :=
      ih (uses ++ svc.batchUses ticks (beamBatch params (hs.flatMap (·.active))) core)
    have hrecorded := svc.stepEnd_recorded ticks params (hs.flatMap (·.active)) core uses
    rw [hstep] at hrecorded
    rw [List.append_assoc] at hsteps
    refine ⟨_ :: steps', ?_, .cons hbusy hrecorded hsteps⟩
    rw [List.length_cons, List.length_cons, hlength]

theorem Stops.recorded (h : svc.Stops ticks params left core hs result after) (uses : List EngineUse) :
    svc.recorded.Stops ticks params left (core.recorded uses) hs result
      (after.recorded (uses ++ svc.stopUses ticks params left core hs)) := by
  unfold stopUses
  cases h with
  | outOfSteps hleft =>
    rw [if_pos (.inl hleft), List.append_nil]
    exact .outOfSteps hleft
  | outOfBeams hidle =>
    rw [if_pos (.inr hidle), List.append_nil]
    exact .outOfBeams hidle
  | failed hleft hbusy hstep =>
    rw [if_neg (not_or.mpr ⟨Nat.ne_of_gt hleft, hbusy⟩)]
    have hrecorded := svc.stepEnd_recorded ticks params (hs.flatMap (·.active)) core uses
    rw [hstep] at hrecorded
    exact .failed hleft hbusy hrecorded

/-- A search ends the same way on an engine that keeps a record, which then shows what the search has asked. -/
theorem Course.recorded (h : svc.Course ticks params w.core roots steps mid hs found after)
    (hroots : svc.searchRoots prompts params lora = .ok roots) (uses : List EngineUse) :
    (svc.recorded.beamSearch ticks prompts params lora sink).Ends (w.recorded uses) found
      (after.recorded (uses ++ svc.searchUses ticks params steps mid hs)) := by
  have hroots' : svc.recorded.searchRoots prompts params lora = .ok roots := hroots
  obtain ⟨result, hstops, hfound⟩ := h.stops
  obtain ⟨steps', hlength, hsteps⟩ := h.completes.recorded uses
  have hstops' := hstops.recorded (uses ++ steps.flatMap (·.uses svc ticks params))
  rw [List.append_assoc] at hstops'
  refine (ends_iff_exists_course hroots').mpr ⟨steps', _, hs, ?_, hsteps, result, ?_, hfound⟩
  · rw [hlength]
    exact h.length_le
  · rw [hlength]
    exact hstops'

/-- Every request of a batch continues one of its beams. -/
theorem exists_beam_of_offered {r : Request}
    (h : .offered r ∈ svc.batchUses ticks (beamBatch params beams) core) :
    ∃ beam ∈ beams, r.toPendingRequest = beamRequest params beam := by
  unfold batchUses at h
  cases hprepare : (beamBatch params beams).prepare svc.model with
  | error e => simp [hprepare] at h
  | ok pending =>
    have hr : r ∈ core.counter.number pending := by
      cases hrefusal : (svc.engine.offerAll (core.counter.number pending) core.engine).refusal with
      | some reason =>
        simp only [hprepare, hrefusal, List.mem_map, EngineUse.offered.injEq, exists_eq_right] at h
        exact List.mem_of_mem_take h
      | none => simpa [hprepare, hrefusal] using h
    obtain ⟨_, rfl⟩ := prepare_beamBatch.mp hprepare
    obtain ⟨beam, hbeam, hsame⟩ := List.mem_map.mp (IdCounter.mem_of_mem_number hr)
    exact ⟨beam, hbeam, hsame.symm⟩

/-- Every request of a search continues a beam that is active in one of its states. -/
theorem exists_state_of_offered {r : Request} (h : .offered r ∈ svc.searchUses ticks params steps core hs) :
    ∃ state ∈ searchStates steps hs, ∃ g ∈ state, ∃ beam ∈ g.active,
      r.toPendingRequest = beamRequest params beam := by
  rcases List.mem_append.mp h with hsteps | hstop
  · obtain ⟨s, hs', hr⟩ := List.mem_flatMap.mp hsteps
    obtain ⟨beam, hbeam, hrequest⟩ := exists_beam_of_offered hr
    obtain ⟨g, hg, hactive⟩ := List.mem_flatMap.mp hbeam
    exact ⟨s.hypotheses, List.mem_append_left _ (List.mem_map_of_mem hs'), g, hg, beam, hactive, hrequest⟩
  · unfold stopUses at hstop
    split at hstop
    · cases hstop
    · obtain ⟨beam, hbeam, hrequest⟩ := exists_beam_of_offered hstop
      obtain ⟨g, hg, hactive⟩ := List.mem_flatMap.mp hbeam
      exact ⟨hs, List.mem_append_right _ List.mem_cons_self, g, hg, beam, hactive, hrequest⟩

/-! A search whose course is known: every step completes one more beam. -/

/-- Answers that offer two tokens after every prompt: the one that ends a beam and another one. -/
def twoOffers : Scripted.Answers where
  rules := [⟨.endsWith [], [(0, .zero), (11, .zero)]⟩]
  offsets := []

def offersService : Service Scripted.State :=
  ⟨({ answers := twoOffers, alphabet := {} } : Scripted.Plan).engine, Scripted.Alphabet.tokenizer {}, none⟩

def twoSteps : BeamParams := { beamWidth := 1, maxTokens := 2 }

/-- A prompt that holds the token that ends a beam. -/
def stoppedPrompt : Prompt := .ofTokens [0, 10]

def offersWorld : World Scripted.State Unit where
  engine := {}
  counter := ⟨0⟩
  sink := ()

def offersStart : List Hypotheses := [Hypotheses.start { tokens := [0, 10] }]

theorem searchRoots_offersStart :
    offersService.searchRoots [stoppedPrompt] twoSteps (.one none) = .ok offersStart := rfl

/-- The result offers the token that ends a beam and another one. -/
def OffersTwo (g : Generation) : Prop :=
  ∃ c, Hypotheses.position? g = some c ∧ c.entries.map (·.1) = [0, 11]

theorem shown_twoOffers (ids : List TokenId) :
    twoOffers.shown {} 2 ids = some (Scripted.Answers.reportedCandidates 2 [(0, .zero), (11, .zero)]) := by
  have haborts : twoOffers.aborts ids = false := by
    simp [Scripted.Answers.aborts, twoOffers]
  have hrule : twoOffers.rules.find? (·.test.holds ids) = some ⟨.endsWith [], [(0, .zero), (11, .zero)]⟩ := rfl
  have hranked : twoOffers.ranked {} ids = [(0, .zero), (11, .zero)] :=
    Scripted.Answers.ranked_of_rule hrule (by decide)
  rw [Scripted.Answers.shown, haborts, hranked]
  rfl

def offersResult (beam : BeamSequence) (id : RequestId) : Generation :=
  twoOffers.generation {} ((beamRequest twoSteps beam).withId id) twoSteps.samplingParams true

theorem offersTwo_offersResult (beam : BeamSequence) (id : RequestId) : OffersTwo (offersResult beam id) := by
  have hposition : Hypotheses.position? (offersResult beam id) = twoOffers.shown {} 2 beam.tokens :=
    Scripted.Answers.position?_beamRequest rfl true
  rw [shown_twoOffers] at hposition
  exact ⟨_, hposition, by decide⟩

/-- On an idle engine a step of one beam is completed, and offers it the two tokens. -/
theorem exists_stepEnd_offersService (beam : BeamSequence) {core : Core Scripted.State}
    (hidle : core.engine.jobs = []) :
    ∃ g after, after.engine.jobs = [] ∧ offersService.stepEnd 1 twoSteps [beam] core = (.ok [g], after) ∧
      OffersTwo g := by
  obtain ⟨⟨offers, made, accepted, jobs, script⟩, counter, defaults⟩ := core
  cases hidle
  have hfinished : (SearchStep.work ⟨⟨⟨offers, made, accepted, [], script⟩, counter, defaults⟩, [Hypotheses.start beam], []⟩
      offersService 1 twoSteps).finished = [.generation (offersResult beam counter.peek)] := rfl
  have hsorted : Update.sorted [.generation (offersResult beam counter.peek)] =
      [offersResult beam counter.peek].map .generation := List.mergeSort_singleton _
  have hstep : offersService.stepEnd 1 twoSteps [beam] ⟨⟨offers, made, accepted, [], script⟩, counter, defaults⟩ =
      (.ok [offersResult beam counter.peek], _) :=
    stepEnd_eq_ok (s := ⟨_, [Hypotheses.start beam], [_]⟩) rfl rfl rfl (hfinished ▸ hsorted) rfl
  exact ⟨_, _, rfl, hstep, offersTwo_offersResult beam counter.peek⟩

/-- One beam that is offered the two tokens ends with the one and goes on with the other. -/
theorem advance_of_offersTwo (beam : BeamSequence) (done : List BeamSequence) {g : Generation}
    (hoffers : OffersTwo g) : ∃ go ended, (⟨[beam], done⟩ : Hypotheses).advance Hypotheses.narrowRule [g] =
      ⟨[go], done ++ [ended]⟩ := by
  obtain ⟨c, hposition, htokens⟩ := hoffers
  obtain ⟨⟨first, x⟩, ⟨second, y⟩, hentries⟩ : ∃ d e, c.entries = [d, e] := by
    rw [← List.length_eq_two, ← List.length_map (·.1), htokens]
    rfl
  obtain ⟨rfl, rfl⟩ : first = 0 ∧ second = 11 := by
    simpa [hentries] using htokens
  refine ⟨beam.extend 11 y.logprob c, beam.extend 0 x.logprob c, Hypotheses.advance_narrowRule ?_ ?_ ?_⟩
  · simp [Hypotheses.expansions, Hypotheses.extensions, hposition, hentries]
  · simp [Hypotheses.endsIn, BeamSequence.extend]
  · simp [Hypotheses.endsIn, BeamSequence.extend]

/-- Step by step one more beam is completed. -/
theorem exists_steps_offersService (n : Nat) (beam : BeamSequence) (done : List BeamSequence)
    {core : Core Scripted.State} (hidle : core.engine.jobs = []) :
    ∃ steps after go done', steps.length = n ∧ done'.length = done.length + n ∧
      offersService.Steps 1 twoSteps steps core [⟨[beam], done⟩] after [⟨[go], done'⟩] ∧
      ∀ s ∈ steps, ∃ beam done g, s.hypotheses = [⟨[beam], done⟩] ∧ s.results = [g] ∧ OffersTwo g := by
  induction n generalizing beam done core with
  | zero => exact ⟨[], core, beam, done, rfl, rfl, .none, List.forall_mem_nil _⟩
  | succ n ih =>
    obtain ⟨g, mid, hmid, hstep, hoffers⟩ := exists_stepEnd_offersService beam hidle
    obtain ⟨go, ended, hadvance⟩ := advance_of_offersTwo beam done hoffers
    obtain ⟨steps, after, last, done', hlength, hdone, hsteps, hall⟩ := ih go (done ++ [ended]) hmid
    have hnext : Hypotheses.advanceAll (offersService.beamRule twoSteps) [⟨[beam], done⟩] [g] = [⟨[go], done ++ [ended]⟩] :=
      congrArg ([·]) hadvance
    refine ⟨⟨core, [⟨[beam], done⟩], [g]⟩ :: steps, after, last, done', ?_, ?_, ?_, ?_⟩
    · rw [List.length_cons, hlength]
    · rw [hdone, List.length_append, List.length_singleton]
      omega
    · exact .cons nofun hstep (hnext ▸ hsteps)
    · intro s hs
      rcases List.mem_cons.mp hs with rfl | hrest
      · exact ⟨beam, done, g, rfl, rfl, hoffers⟩
      · exact hall s hrest

theorem exists_course_offersService (root : BeamSequence) :
    ∃ steps mid go done found, steps.length = 2 ∧ done.length = 2 ∧
    offersService.Course 1 twoSteps offersWorld.core [.start root] steps mid [⟨[go], done⟩] (.ok found) mid ∧
    ∀ s ∈ steps, ∃ beam done g, s.hypotheses = [⟨[beam], done⟩] ∧ s.results = [g] ∧ OffersTwo g := by
  have hidle : offersWorld.core.engine.jobs = [] := rfl
  obtain ⟨steps, mid, go, done, hlength, hdone, hsteps, hall⟩ :=
    exists_steps_offersService 2 root [] hidle
  refine ⟨steps, mid, go, done, _, hlength, hdone, ⟨?_, hsteps, _, .outOfSteps ?_, rfl⟩, hall⟩
  · exact Nat.le_of_eq hlength
  · rw [hlength]
    rfl

end Service

end BatchInference
