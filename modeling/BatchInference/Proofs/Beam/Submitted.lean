import BatchInference.Proofs.Beam.Runs

/-!
What a search submits. The batch of a step has one request for each active beam, prompt by prompt and beam by beam,
and whatever becomes of the beams on the way, the request for a beam goes with the payload and the adapter of the
prompt it has grown from: a beam takes them along from its root, and the prompts keep their places. A prompt without
active beams has none ever after, and no request.
-/

namespace BatchInference

/-- The requests among what was asked, as they were before they had their ids. -/
def EngineUse.submitted (uses : List EngineUse) : List PendingRequest := (requests uses).map (·.toPendingRequest)

namespace Hypotheses

variable {rule : BeamRule} {g : Hypotheses}

theorem exhausted_advance (h : g.active = []) (results : List Generation) : (g.advance rule results).active = [] := by
  simp [advance, expansions, h, BeamRanking.keepBest, BeamRanking.sorted]

theorem exhausted_foldl_advance (h : g.active = []) (rs : List (List Generation)) :
    (rs.foldl (fun g results => g.advance rule results) g).active = [] := by
  induction rs generalizing g with
  | nil => exact h
  | cons results rest ih => exact ih (exhausted_advance h results)

/-- A state of the search for a prompt with an adapter after `k` steps: every active beam is the prompt with `k` more
tokens and goes with what belongs to the prompt. There is one beam at first, and no more than are kept later. -/
structure GrownFrom (tokenizer : Tokenizer) (width k : Nat) (prompt : Prompt) (adapter : Option LoraAdapter)
    (g : Hypotheses) : Prop where
  tokens : ∀ beam ∈ g.active, ∃ generated : List TokenId,
    generated.length = k ∧ beam.tokens = prompt.tokensBy tokenizer ++ generated
  companions : ∀ beam ∈ g.active, beam.companions = prompt.companions
  lora : ∀ beam ∈ g.active, beam.lora = adapter
  first : k = 0 → g.active.length = 1
  later : 0 < k → g.active.length ≤ width

theorem grownFrom_run {tokenizer : Tokenizer} {prompt : Prompt} {adapter : Option LoraAdapter} {root : BeamSequence}
    (hroot : BeamSequence.ofPrompt tokenizer prompt adapter = .ok root) (rule : BeamRule)
    (rs : List (List Generation)) :
    (run rule root rs).GrownFrom tokenizer rule.width rs.length prompt adapter := by
  have hstart := BeamSequence.ofPrompt_eq_ok hroot
  have hlogprobs : root.logprobs = [] := by rw [hstart]
  have hcum : root.cumLogprob = .zero := by rw [hstart]
  obtain ⟨hactive, _⟩ := run_descends hlogprobs hcum rule rs
  constructor
  · intro beam hbeam
    obtain ⟨path, hpath, hdescends⟩ := hactive beam hbeam
    refine ⟨path.map (·.1), by rw [List.length_map, hpath], ?_⟩
    rw [hdescends.tokens, hstart]
  · intro beam hbeam
    obtain ⟨path, _, hdescends⟩ := hactive beam hbeam
    rw [hdescends.companions, hstart]
  · intro beam hbeam
    obtain ⟨path, _, hdescends⟩ := hactive beam hbeam
    rw [hdescends.lora, hstart]
  · intro hzero
    cases List.length_eq_zero_iff.mp hzero
    rfl
  · intro hpos
    obtain ⟨before, results, rfl⟩ := (List.eq_nil_or_concat' rs).resolve_left (List.ne_nil_of_length_pos hpos)
    rw [run_snoc]
    exact List.length_take_le _ _

end Hypotheses

/-- The request that continues a beam of a prompt by one token. -/
def continuation (params : BeamParams) (prompt : Prompt) (adapter : Option LoraAdapter) (beam : BeamSequence) :
    PendingRequest where
  prompt := .tokens beam.tokens none prompt.companions
  params := .sampling
    { logprobs := some (2 * params.beamWidth)
      maxTokens := some 1
      temperature := params.temperature
      outputKind := .finalOnly }
  adapters := ⟨adapter, none, none⟩

/-- The requests of a step, prompt by prompt and beam by beam. -/
def stepRequests (params : BeamParams) (prompts : List (Prompt × Option LoraAdapter)) (state : List Hypotheses) :
    List PendingRequest :=
  (prompts.zip state).flatMap fun (p, g) => g.active.map (continuation params p.1 p.2)

/-- Beams go with what belongs to the prompts they are grown from, so the requests for them do. -/
theorem map_beamRequest {params : BeamParams} (hparams : params.verify = .ok ()) {tokenizer : Tokenizer} {k : Nat}
    {prompts : List (Prompt × Option LoraAdapter)} {state : List Hypotheses}
    (h : List.Forall₂ (fun p (g : Hypotheses) => g.GrownFrom tokenizer params.beamWidth k p.1 p.2) prompts state) :
    (state.flatMap (·.active)).map (beamRequest params) = stepRequests params prompts state := by
  obtain ⟨_, hcount, _⟩ := BeamParams.bounds_of_verify hparams
  induction h with
  | nil => rfl
  | @cons p g prompts state hgrown _ ih =>
    have hsame : g.active.map (beamRequest params) = g.active.map (continuation params p.1 p.2) := by
      apply List.map_congr_left
      intro beam hbeam
      simp only [beamRequest, continuation, BeamSequence.toPrompt, hgrown.companions beam hbeam,
        hgrown.lora beam hbeam, BeamParams.samplingParams, BeamParams.stepParams, Nat.min_eq_left hcount]
    rw [List.flatMap_cons, List.map_append, ih, hsame]
    rfl

namespace Service

variable {σ τ : Type} {svc : Service σ} {w : World σ τ} {core mid after : Core σ} {ticks k : Nat}
  {params : BeamParams} {prompts : List Prompt} {lora : Broadcast (Option LoraAdapter)}
  {loras : List (Option LoraAdapter)} {sink : Option (ProgressSink τ)} {beams : List BeamSequence}
  {roots hs hs' state state' : List Hypotheses} {steps : List (SearchStep σ)}
  {found : Except Halt (List (List BeamSequence))}

/-- What a search asks in each of its steps, the one that it stops with included. -/
def usesByStep (svc : Service σ) (ticks : Nat) (params : BeamParams) (steps : List (SearchStep σ)) (mid : Core σ)
    (hs : List Hypotheses) : List (List EngineUse) :=
  steps.map (·.uses svc ticks params) ++ [svc.stopUses ticks params (params.maxTokens - steps.length) mid hs]

theorem flatten_usesByStep :
    (svc.usesByStep ticks params steps mid hs).flatten = svc.searchUses ticks params steps mid hs := by
  simp [usesByStep, searchUses, List.flatMap_def]

theorem Steps.grownFrom (h : svc.Steps ticks params steps core roots after hs)
    (hroots : svc.searchRoots prompts params lora = .ok roots)
    (hloras : lora.resolve "lora_request" prompts.length = .ok loras)
    (hstate : (searchStates steps hs)[k]? = some state) :
    List.Forall₂ (fun p (g : Hypotheses) => g.GrownFrom svc.tokenizer params.beamWidth k p.1 p.2)
      (prompts.zip loras) state := by
  refine (h.forall₂_run_from hroots hloras hstate).imp ?_
  rintro p _ ⟨root, rs, hroot, rfl, rfl⟩
  exact Hypotheses.grownFrom_run hroot (svc.beamRule params) rs

/-- A prompt that has no beam in one state of a search has none in the later ones. -/
theorem Steps.exhausted (h : svc.Steps ticks params steps core roots after hs) {k' i : Nat} {g g' : Hypotheses}
    (hk : k ≤ k') (hstate : (searchStates steps hs)[k]? = some state)
    (hstate' : (searchStates steps hs)[k']? = some state') (hg : state[i]? = some g) (hg' : state'[i]? = some g')
    (hexhausted : g.active = []) : g'.active = [] := by
  obtain ⟨_, _, hsteps⟩ := h.of_state hstate
  obtain ⟨_, _, hsteps'⟩ := h.of_state hstate'
  have hrun := hsteps.getElem?_eq i
  have hrun' := hsteps'.getElem?_eq i
  have hsplit : steps.take k' = steps.take k ++ (steps.take k').drop k := by
    rw [← Nat.min_eq_left hk, ← List.take_take, Nat.min_eq_left hk, List.take_append_drop]
  rw [hg] at hrun
  obtain ⟨first, hfirst, rfl⟩ := Option.map_eq_some_iff.mp hrun.symm
  rw [hg', hfirst, hsplit, List.map_append] at hrun'
  simp only [Option.map_some, List.foldl_append, Option.some.injEq] at hrun'
  rw [hrun']
  exact Hypotheses.exhausted_foldl_advance hexhausted _

/-- A step offers the requests for its beams, all of them unless it fails with an error of the engine. -/
theorem submitted_batchUses (hparams : params.verify = .ok ()) (ticks : Nat) (beams : List BeamSequence)
    (core : Core σ) :
    EngineUse.submitted (svc.batchUses ticks (beamBatch params beams) core) = beams.map (beamRequest params) ∨
      EngineUse.submitted (svc.batchUses ticks (beamBatch params beams) core) <+: beams.map (beamRequest params) ∧
        ∃ reason, (svc.stepEnd ticks params beams core).1 = .error (.failed (.engine (.reported reason))) := by
  have hprepare : (beamBatch params beams).prepare svc.model = .ok _ :=
    prepare_beamBatch.mpr ⟨BeamParams.verify_samplingParams hparams, rfl⟩
  obtain ⟨offered, hoffered, hrequests, _, hall⟩ := exists_offered hprepare ticks core
  rw [EngineUse.submitted, hrequests, IdCounter.toPendingRequest_number]
  refine hall.imp_right ?_
  rintro ⟨reason, hfailed⟩
  exact ⟨hoffered, reason, by rw [stepEnd, hfailed, resultOf]⟩

/-- A completed step has offered the requests for all its beams. -/
theorem Steps.submitted (h : svc.Steps ticks params steps core hs after hs') (hparams : params.verify = .ok ()) :
    ∀ s ∈ steps, EngineUse.submitted (s.uses svc ticks params) = s.beams.map (beamRequest params) := by
  intro s hs
  obtain ⟨mid, hstep⟩ := h.forall_mem (P := fun s => ∃ mid, svc.stepEnd ticks params s.beams s.core =
    (.ok s.results, mid)) (fun _ mid hstep => ⟨mid, hstep⟩) s hs
  rcases submitted_batchUses hparams ticks s.beams s.core with hall | ⟨_, reason, hfailed⟩
  · exact hall
  · rw [hstep] at hfailed
    cases hfailed

/-- The same for every step of a search: only the one it stops with can leave requests out. -/
theorem Course.submitted (h : svc.Course ticks params core roots steps mid hs found after)
    (hparams : params.verify = .ok ()) {uses : List EngineUse} (hk : k < params.maxTokens)
    (hstate : (searchStates steps hs)[k]? = some state)
    (huses : (svc.usesByStep ticks params steps mid hs)[k]? = some uses) :
    EngineUse.submitted uses = (state.flatMap (·.active)).map (beamRequest params) ∨
      k = steps.length ∧ EngineUse.submitted uses <+: (state.flatMap (·.active)).map (beamRequest params) ∧
        ∃ reason, found = .error (.failed (.engine (.reported reason))) := by
  obtain ⟨hle, _, _⟩ := h.completes.of_state hstate
  by_cases hcompleted : k < steps.length
  · rw [searchStates, List.getElem?_append_left (by simpa using hcompleted), List.getElem?_map,
      List.getElem?_eq_getElem hcompleted] at hstate
    rw [usesByStep, List.getElem?_append_left (by simpa using hcompleted), List.getElem?_map,
      List.getElem?_eq_getElem hcompleted] at huses
    cases hstate
    cases huses
    exact .inl (h.completes.submitted hparams steps[k] (List.getElem_mem hcompleted))
  · obtain rfl : k = steps.length := by omega
    rw [getElem?_searchStates_length] at hstate
    cases hstate
    obtain rfl : svc.stopUses ticks params (params.maxTokens - steps.length) mid hs = uses := by
      simpa [usesByStep] using huses
    obtain ⟨result, hstops, hfound⟩ := h.stops
    unfold stopUses
    cases hstops with
    | outOfSteps hzero => omega
    | outOfBeams hidle =>
      rw [if_pos (.inr hidle), hidle]
      exact .inl rfl
    | failed hleft hbusy hstep =>
      rw [if_neg (not_or.mpr ⟨Nat.ne_of_gt hleft, hbusy⟩)]
      rcases submitted_batchUses hparams ticks (hs.flatMap (·.active)) mid with hall | ⟨hoffered, reason, hfailed⟩
      · exact .inl hall
      · rw [hstep] at hfailed
        cases hfailed
        exact .inr ⟨rfl, hoffered, reason, hfound⟩

/-- However a search ends, it has a course, and the engine is asked step by step. In the state before a step the
search of every prompt has grown from the prompt with its own adapter; the step submits, prompt by prompt and beam by
beam, the requests that continue its active beams, and only the step it stops with can leave requests out, if the
engine fails in it. A prompt that has no beams any more never has one again. -/
theorem steps_submit_continuations (hroots : svc.searchRoots prompts params lora = .ok roots)
    (h : (svc.beamSearch ticks prompts params lora sink).Ends w found after) :
    ∃ loras steps mid hs, ∃ asked : List (List EngineUse),
      lora.resolve "lora_request" prompts.length = .ok loras ∧
      svc.Course ticks params w.core roots steps mid hs found after ∧
      (∀ uses, (svc.recorded.beamSearch ticks prompts params lora sink).Ends (w.recorded uses) found
        (after.recorded (uses ++ asked.flatten))) ∧
      asked.length = steps.length + 1 ∧
      (∀ k state uses, (searchStates steps hs)[k]? = some state → asked[k]? = some uses →
        List.Forall₂ (fun p (g : Hypotheses) => g.GrownFrom svc.tokenizer params.beamWidth k p.1 p.2)
          (prompts.zip loras) state ∧
        (params.maxTokens ≤ k → uses = []) ∧
        (k < params.maxTokens → EngineUse.submitted uses = stepRequests params (prompts.zip loras) state ∨
          k = steps.length ∧ EngineUse.submitted uses <+: stepRequests params (prompts.zip loras) state ∧
            ∃ reason, found = .error (.failed (.engine (.reported reason))))) ∧
      ∀ (i k k' : Nat) (state state' : List Hypotheses) (g g' : Hypotheses), k ≤ k' →
        (searchStates steps hs)[k]? = some state → (searchStates steps hs)[k']? = some state' →
        state[i]? = some g → state'[i]? = some g' → g.active = [] → g'.active = [] := by
  obtain ⟨_, hparams, loras, _, hloras, _⟩ := searchRoots_eq_ok.mp hroots
  obtain ⟨steps, mid, hs, hcourse⟩ := (ends_iff_exists_course hroots).mp h
  refine ⟨loras, steps, mid, hs, svc.usesByStep ticks params steps mid hs, hloras, hcourse, ?_, ?_, ?_, ?_⟩
  · intro uses
    rw [flatten_usesByStep]
    exact hcourse.recorded hroots uses
  · simp [usesByStep]
  · intro k state uses hstate huses
    have hgrown := hcourse.completes.grownFrom hroots hloras hstate
    refine ⟨hgrown, ?_, ?_⟩
    · intro hk
      obtain ⟨hle, _, _⟩ := hcourse.completes.of_state hstate
      have hmost := hcourse.length_le
      obtain rfl : k = steps.length := by omega
      have hleft : params.maxTokens - steps.length = 0 := by omega
      simpa [usesByStep, stopUses, hleft] using huses.symm
    · intro hk
      rw [← map_beamRequest hparams hgrown]
      exact hcourse.submitted hparams hk hstate huses
  · intro i k k' state state' g g' hk hstate hstate' hg hg' hexhausted
    exact hcourse.completes.exhausted hk hstate hstate' hg hg' hexhausted

/-- A prompt of two tokens with a picture. -/
def picturedPrompt : Prompt := .tokens [0, 10] (some [1, 1]) { payload := some ⟨0, .text "picture"⟩ }

def pictureAdapter : LoraAdapter := ⟨"pictures", 1, "/pictures"⟩

/-- In the second step the picture and the adapter still go with the beam, and the segments of the prompt do not. -/
theorem picturedPrompt_continued : ∃ steps mid hs found, ∃ asked : List (List EngineUse),
    offersService.Course 1 twoSteps offersWorld.core
      [.start { tokens := [0, 10], lora := some pictureAdapter, companions := picturedPrompt.companions }]
      steps mid hs (.ok found) mid ∧
    (offersService.recorded.beamSearch 1 [picturedPrompt] twoSteps (.one (some pictureAdapter)) none).Ends
      (offersWorld.recorded []) (.ok found) (mid.recorded asked.flatten) ∧
    ∃ uses beam token, asked[1]? = some uses ∧ beam.tokens = [0, 10, token] ∧
      EngineUse.submitted uses = [continuation twoSteps picturedPrompt (some pictureAdapter) beam] := by
  obtain ⟨steps, mid, go, done, found, hlength, _, hcourse, hall⟩ := exists_course_offersService
    { tokens := [0, 10], lora := some pictureAdapter, companions := picturedPrompt.companions }
  have hroots : offersService.searchRoots [picturedPrompt] twoSteps (.one (some pictureAdapter)) =
      .ok [.start { tokens := [0, 10], lora := some pictureAdapter, companions := picturedPrompt.companions }] := rfl
  have hends : (offersService.beamSearch 1 [picturedPrompt] twoSteps (.one (some pictureAdapter)) none).Ends offersWorld
      (.ok found) mid := (ends_iff_exists_course hroots).mpr ⟨steps, mid, _, hcourse⟩
  obtain ⟨loras, steps', mid', hs, asked, hloras, hcourse', hrecorded, hasked, hsteps, _⟩ :=
    steps_submit_continuations hroots hends
  cases hloras
  obtain ⟨rfl, rfl, _⟩ := hcourse.unique hcourse'
  have hone : 1 < steps.length := by omega
  obtain ⟨beam, done, g, hstate, _⟩ := hall steps[1] (List.getElem_mem hone)
  have hnext : (searchStates steps hs)[1]? = some [⟨[beam], done⟩] := by
    simp [searchStates, List.getElem?_append_left, hone, hstate]
  have huses : asked[1]? = some asked[1] := List.getElem?_eq_getElem (by omega)
  obtain ⟨hgrown, _, hsubmitted⟩ := hsteps 1 _ _ hnext huses
  obtain ⟨hbeam, _⟩ := List.forall₂_cons.mp hgrown
  obtain ⟨generated, hgenerated, htokens⟩ := hbeam.tokens beam List.mem_cons_self
  obtain ⟨token, rfl⟩ := List.length_eq_one_iff.mp hgenerated
  refine ⟨steps, mid, _, found, asked, hcourse, hrecorded [], asked[1], beam, token, huses, htokens, ?_⟩
  rcases hsubmitted (by decide) with hall | ⟨hlast, _⟩
  · exact hall
  · omega

end Service

end BatchInference
