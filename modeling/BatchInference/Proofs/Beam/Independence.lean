import BatchInference.Proofs.Batch.Serving
import BatchInference.Proofs.Beam.Alone
import BatchInference.Proofs.Beam.Steps
import BatchInference.Proofs.Scripted.Contract

/-!
Searches that run in lock step are independent of one another. If the engine is reliable and what it generates for
one token depends on nothing but the prompt, the adapter and the parameters of the request, then a search for many
prompts finds for each of them what a search for this prompt alone finds, on whatever engine of this kind and with
whatever schedule.
-/

namespace BatchInference

/-- An update that shows, where one token is asked for, what there is to reply to the request's prompt, adapter and
parameters, under the request's id. -/
def Update.Replies (reply : Prompt → Option LoraAdapter → SamplingParams → Generation) (r : Request) (u : Update) :
    Prop :=
  u.id = r.id ∧ ∀ p, r.params = .sampling p → p.maxTokens = some 1 →
    u = .generation { reply r.prompt r.adapters.lora p with id := r.id, finished := true }

/-- Updates that answer a search's requests in this way show every beam what it asks for, under the requests' ids. -/
structure Update.Showing (answers : Request → Update → Prop) (params : BeamParams)
    (shown : BeamSequence → Generation) : Prop where
  id {r : Request} {u : Update} : answers r u → u.id = r.id
  shows {r : Request} {u : Update} (beam : BeamSequence) : answers r u →
    r.toPendingRequest = beamRequest params beam →
    ∃ g, u = .generation g ∧ Hypotheses.position? g = Hypotheses.position? (shown beam)

namespace Service

open Hypotheses

variable {σ τ : Type} {answers : Request → Update → Prop} {shown : BeamSequence → Generation} {svc : Service σ}
  {owes : σ → List Request → Prop} {core : Core σ} {params : BeamParams} {hs : List Hypotheses}

def ask (reply : Prompt → Option LoraAdapter → SamplingParams → Generation) (params : BeamParams)
    (beam : BeamSequence) : Generation :=
  reply beam.toPrompt beam.lora params.samplingParams

private theorem exists_results (hshowing : Update.Showing answers params shown) {c : IdCounter}
    {beams : List BeamSequence} {us : List Update}
    (h : List.Forall₂ answers (c.number (beams.map (beamRequest params))) us) :
    ∃ results : List Generation, results.map .generation = us ∧ Tells shown beams results := by
  induction beams generalizing c us with
  | nil =>
    cases h
    exact ⟨[], rfl, .nil⟩
  | cons beam rest ih =>
    cases h with
    | cons hu hrest =>
      obtain ⟨g, rfl, hposition⟩ := hshowing.shows beam hu rfl
      obtain ⟨results, hresults, htells⟩ := ih hrest
      refine ⟨g :: results, ?_, .cons hposition htells⟩
      rw [List.map_cons, hresults]

/-- A step on an idle engine is completed within some ticks, and shows every beam what it asks for. -/
theorem step_served (hreliable : svc.engine.Reliable answers owes) (hshowing : Update.Showing answers params shown)
    (hidle : owes core.engine []) (hparams : params.samplingParams.verify = .ok ())
    (hroom : core.counter.HasRoom (hs.flatMap (·.active)).length) :
    ∃ enough results after, owes after.engine [] ∧ Tells shown (hs.flatMap (·.active)) results ∧
      ∀ ticks, enough ≤ ticks → svc.stepEnd ticks params (hs.flatMap (·.active)) core = (.ok results, after) := by
  have hid : ∀ r u, answers r u → u.id = r.id := fun _ _ h => hshowing.id h
  rw [← List.length_map (beamRequest params)] at hroom
  have haccepted := hreliable.offerAll_accepted hidle
    (core.counter.number ((hs.flatMap (·.active)).map (beamRequest params)))
  obtain ⟨enough, work, hhalt, hwork, hanswers, hafter⟩ := hreliable.serves hid hidle hroom
  obtain ⟨results, hresults, htells⟩ := exists_results hshowing hanswers
  refine ⟨enough, results, ⟨work.engine, core.counter.skip (hs.flatMap (·.active)).length, core.defaults⟩, hafter,
    htells, ?_⟩
  intro ticks hticks
  have hthis : SearchStep.work ⟨core, hs, results⟩ svc ticks params = work := hwork ticks hticks
  have hstep := stepEnd_eq_ok (s := ⟨core, hs, results⟩) hparams haccepted (hthis ▸ hhalt)
    (hthis ▸ hresults.symm) htells.length_eq.symm
  rw [hthis] at hstep
  exact hstep

/-- From an idle engine, up to `remaining` steps bring every search where it comes by itself. -/
theorem steps_served (hreliable : svc.engine.Reliable answers owes) (hshowing : Update.Showing answers params shown)
    (hparams : params.samplingParams.verify = .ok ()) {remaining : Nat} (hidle : owes core.engine [])
    (hroom : ∀ ticks steps mid hs', svc.Steps ticks params steps core hs mid hs' → steps.length < remaining →
      mid.counter.HasRoom (hs'.flatMap (·.active)).length) :
    ∃ enough after, ∀ ticks, enough ≤ ticks → ∃ steps left, steps.length + left = remaining ∧
      svc.Steps ticks params steps core hs after
        (hs.map (alone (svc.beamRule params) shown)^[remaining]) ∧
      svc.Stops ticks params left after (hs.map (alone (svc.beamRule params) shown)^[remaining])
        (.ok (hs.map (alone (svc.beamRule params) shown)^[remaining])) after := by
  induction remaining generalizing core hs with
  | zero =>
    refine ⟨0, core, ?_⟩
    intro ticks _
    rw [Function.iterate_zero, List.map_id]
    exact ⟨[], 0, rfl, .none, .outOfSteps rfl⟩
  | succ remaining ih =>
    by_cases hbusy : hs.flatMap (·.active) = []
    · have hstay : hs.map (alone (svc.beamRule params) shown)^[remaining + 1] = hs := by
        rw [List.map_congr_left (g := id), List.map_id]
        intro h hh
        have hactive : h.active = [] := by
          rw [List.flatMap_eq_nil_iff] at hbusy
          exact hbusy h hh
        exact iterate_alone_of_exhausted hactive (remaining + 1)
      refine ⟨0, core, ?_⟩
      intro ticks _
      rw [hstay]
      exact ⟨[], remaining + 1, Nat.zero_add _, .none, .outOfBeams hbusy⟩
    · have hroom₀ := hroom 0 [] core hs .none (Nat.succ_pos remaining)
      obtain ⟨enough, results, mid, hmid, htells, hstep⟩ := step_served hreliable hshowing hidle hparams hroom₀
      have hall : advanceAll (svc.beamRule params) hs results =
          hs.map (alone (svc.beamRule params) shown) := advanceAll_of_tells htells
      have hroom' : ∀ ticks steps mid' hs', svc.Steps ticks params steps mid
          (hs.map (alone (svc.beamRule params) shown)) mid' hs' → steps.length < remaining →
          mid'.counter.HasRoom (hs'.flatMap (·.active)).length := by
        intro ticks steps mid' hs' hsteps hlt
        -- with enough ticks for both, the step comes before the others
        have hmore := hsteps.of_le (Nat.le_max_left ticks enough)
        rw [← hall] at hmore
        apply hroom (max ticks enough) _ mid' hs' (.cons hbusy (hstep _ (Nat.le_max_right ticks enough)) hmore)
        rw [List.length_cons]
        omega
      obtain ⟨enough', after, hrest⟩ := ih hmid hroom'
      refine ⟨max enough enough', after, ?_⟩
      intro ticks hticks
      obtain ⟨steps, left, hlength, hsteps, hstops⟩ := hrest ticks (by omega)
      rw [List.map_map, ← Function.iterate_succ] at hsteps hstops
      rw [← hall] at hsteps
      refine ⟨_ :: steps, left, ?_, .cons hbusy (hstep ticks (by omega)) hsteps, hstops⟩
      rw [List.length_cons]
      omega

/-- No step that a search may take finds fewer ids before the counter comes round than it needs. -/
def HasRoomFor (svc : Service σ) (params : BeamParams) (prompts : List Prompt)
    (lora : Broadcast (Option LoraAdapter)) (core : Core σ) : Prop :=
  ∀ ticks roots steps mid hs, svc.searchRoots prompts params lora = .ok roots →
    svc.Steps ticks params steps core roots mid hs → steps.length < params.maxTokens →
      mid.counter.HasRoom (hs.flatMap (·.active)).length

/-- Given enough ticks, a search ends with these sequences for its prompts. -/
def Finds (svc : Service σ) (params : BeamParams) (prompts : List Prompt) (lora : Broadcast (Option LoraAdapter))
    (core : Core σ) (found : List (List BeamSequence)) : Prop :=
  ∃ enough after, ∀ ticks, enough ≤ ticks → ∀ (τ : Type) (sink : Option (ProgressSink τ)) (w : World σ τ),
    w.core = core → (svc.beamSearch ticks prompts params lora sink).Ends w (.ok found) after

/-- A service that generates, with an idle and reliable engine of given replies. -/
structure Replying (svc : Service σ) (owes : σ → List Request → Prop)
    (reply : Prompt → Option LoraAdapter → SamplingParams → Generation) (core : Core σ) : Prop where
  runner : svc.model.runner = .generate
  replies : svc.engine.Reliable (Update.Replies reply) owes
  idle : owes core.engine []

variable {reply : Prompt → Option LoraAdapter → SamplingParams → Generation} {prompts : List Prompt}
  {lora : Broadcast (Option LoraAdapter)} {loras : List (Option LoraAdapter)} {starts : List BeamSequence}

theorem replies_showing : Update.Showing (Update.Replies reply) params (ask reply params) where
  id h := h.1
  shows {r _} beam h hr := by
    have hprompt : r.prompt = beam.toPrompt := congrArg PendingRequest.prompt hr
    have hparams : r.params = .sampling params.samplingParams := congrArg PendingRequest.params hr
    have hadapters : r.adapters = ⟨beam.lora, none, none⟩ := congrArg PendingRequest.adapters hr
    refine ⟨_, h.2 params.samplingParams hparams rfl, ?_⟩
    rw [hprompt, hadapters]
    rfl

/-- What a search finds from a sequence it starts from, by itself. -/
def foundFrom (svc : Service σ) (reply : Prompt → Option LoraAdapter → SamplingParams → Generation)
    (params : BeamParams) (start : BeamSequence) : List BeamSequence :=
  ((alone (svc.beamRule params) (ask reply params))^[params.maxTokens] ⟨[start], []⟩).finish (svc.beamRule params)
    svc.tokenizer

/-- A search on an idle engine that shows every beam what it asks for finds for each start what the search from it
finds by itself. -/
theorem finds_of_showing (hrunner : svc.model.runner = .generate) (hreliable : svc.engine.Reliable answers owes)
    (hshowing : Update.Showing answers params shown) (hidle : owes core.engine []) (hparams : params.verify = .ok ())
    (hlora : lora.resolve "lora_request" prompts.length = .ok loras)
    (hstarts : List.Forall₂ (fun p start => BeamSequence.ofPrompt svc.tokenizer p.1 p.2 = .ok start)
      (prompts.zip loras) starts)
    (hroom : svc.HasRoomFor params prompts lora core) :
    svc.Finds params prompts lora core (starts.map fun start =>
      ((alone (svc.beamRule params) shown)^[params.maxTokens] ⟨[start], []⟩).finish (svc.beamRule params)
        svc.tokenizer) := by
  have hroots : svc.searchRoots prompts params lora = .ok (starts.map fun start => ⟨[start], []⟩) :=
    searchRoots_eq_ok.mpr ⟨if_pos hrunner, hparams, loras, starts, hlora, hstarts, rfl⟩
  obtain ⟨enough, after, hserved⟩ := steps_served hreliable hshowing (BeamParams.verify_samplingParams hparams)
    hidle fun ticks steps mid hs => hroom ticks _ steps mid hs hroots
  refine ⟨enough, after, ?_⟩
  intro ticks hticks τ sink w hw
  obtain ⟨steps, left, hlength, hsteps, hstops⟩ := hserved ticks hticks
  apply (beamSearch_ends_iff hroots hw).mpr
  refine ⟨steps, left, after, _, _, hlength, hsteps, hstops, ?_⟩
  simp only [Except.map, List.map_map]
  rfl

/-- A search on a replying service finds for each start what the search from it finds by itself. -/
theorem finds_alone (hreplying : svc.Replying owes reply core) (hparams : params.verify = .ok ())
    (hlora : lora.resolve "lora_request" prompts.length = .ok loras)
    (hstarts : List.Forall₂ (fun p start => BeamSequence.ofPrompt svc.tokenizer p.1 p.2 = .ok start)
      (prompts.zip loras) starts)
    (hroom : svc.HasRoomFor params prompts lora core) :
    svc.Finds params prompts lora core (starts.map (svc.foundFrom reply params)) :=
  finds_of_showing hreplying.runner hreplying.replies replies_showing hreplying.idle hparams hlora hstarts hroom

/-- Steps draw no more ids than the searches may have beams, each step anew. -/
theorem Steps.counter {ticks : Nat} {steps : List (SearchStep σ)} {mid : Core σ} {hs' : List Hypotheses}
    (h : svc.Steps ticks params steps core hs mid hs') (hwidth : ∀ h ∈ hs, h.active.length ≤ params.beamWidth) :
    hs'.length = hs.length ∧ (∀ h ∈ hs', h.active.length ≤ params.beamWidth) ∧
      ∃ drawn ≤ steps.length * (hs.length * params.beamWidth), mid.counter = core.counter.skip drawn := by
  induction h with
  | none => exact ⟨rfl, hwidth, 0, Nat.zero_le _, (IdCounter.skip_zero _).symm⟩
  | @cons steps core mid _ hs _ results _ hstep _ ih =>
    obtain ⟨hlength, hwidth', drawn, hdrawn, hcounter⟩ := ih fun h hh => length_active_of_mem_advanceAll hh
    obtain ⟨_, _, _, _, hmid⟩ := exists_of_stepEnd (s := ⟨core, hs, results⟩) hstep
    have hbeams : (hs.flatMap (·.active)).length ≤ hs.length * params.beamWidth := length_beams_le hwidth
    rw [length_advanceAll] at hlength hdrawn
    refine ⟨hlength, hwidth', (hs.flatMap (·.active)).length + drawn, ?_, ?_⟩
    · rw [List.length_cons, Nat.add_mul]
      omega
    · rw [hcounter, hmid, IdCounter.skip_skip]
      rfl

theorem hasRoomFor_of_le (hparams : params.verify = .ok ())
    (h : core.counter.next.toNat + params.maxTokens * (prompts.length * params.beamWidth) ≤ 2 ^ 64) :
    svc.HasRoomFor params prompts lora core := by
  intro ticks roots steps mid hs hroots hsteps hlt
  obtain ⟨_, _, loras, starts, _, hstarts, rfl⟩ := searchRoots_eq_ok.mp hroots
  obtain ⟨hone, _, _⟩ := BeamParams.bounds_of_verify hparams
  obtain ⟨hlength, hwidth, drawn, hdrawn, hcounter⟩ := hsteps.counter (by
    intro h hh
    obtain ⟨start, _, rfl⟩ := List.mem_map.mp hh
    exact hone)
  have hcount : starts.length ≤ prompts.length := by
    rw [← hstarts.length_eq, List.length_zip]
    omega
  have hbeams := length_beams_le hwidth
  rw [List.length_map] at hlength hdrawn
  rw [hlength] at hbeams
  have hmost : starts.length * params.beamWidth ≤ prompts.length * params.beamWidth :=
    Nat.mul_le_mul_right _ hcount
  have htotal : (steps.length + 1) * (prompts.length * params.beamWidth) ≤
      params.maxTokens * (prompts.length * params.beamWidth) := Nat.mul_le_mul_right _ hlt
  have hused : steps.length * (starts.length * params.beamWidth) ≤
      steps.length * (prompts.length * params.beamWidth) := Nat.mul_le_mul_left _ hmost
  rw [Nat.add_mul, Nat.one_mul] at htotal
  have hmod := Nat.mod_le (core.counter.next.toNat + drawn) (2 ^ 64)
  rw [IdCounter.HasRoom, hcounter, IdCounter.toNat_skip]
  omega

theorem exists_ofPrompt (tokenizer : Tokenizer) {l : List (Prompt × Option LoraAdapter)}
    (h : ∀ p ∈ l, ∀ rows, p.1 ≠ .embeds rows) :
    ∃ starts, List.Forall₂ (fun p start => BeamSequence.ofPrompt tokenizer p.1 p.2 = .ok start) l starts := by
  induction l with
  | nil => exact ⟨[], .nil⟩
  | cons p rest ih =>
    obtain ⟨starts, hstarts⟩ := ih fun q hq => h q (List.mem_cons_of_mem p hq)
    obtain ⟨prompt, adapter⟩ := p
    cases prompt with
    | text s companions => exact ⟨_ :: starts, .cons rfl hstarts⟩
    | tokens ids typeIds companions => exact ⟨_ :: starts, .cons rfl hstarts⟩
    | embeds rows => exact absurd rfl (h _ List.mem_cons_self rows)

/-- A search for prompts that are text or tokens finds, for each of them, what a search for this prompt alone with
its own adapter finds on any service with the same tokenizer and the same replies. -/
theorem lockstep_search_eq_alone (hreplying : svc.Replying owes reply core) (hparams : params.verify = .ok ())
    (hprompts : ∀ p ∈ prompts, ∀ rows, p ≠ .embeds rows) (hloras : loras.length = prompts.length)
    (hroom : svc.HasRoomFor params prompts (.each loras) core) :
    ∃ found, found.length = prompts.length ∧ svc.Finds params prompts (.each loras) core found ∧
      ∀ (i : Nat) prompt adapter best, prompts[i]? = some prompt → loras[i]? = some adapter → found[i]? = some best →
        ∀ {σ' : Type} (svc' : Service σ') (owes' : σ' → List Request → Prop) (core' : Core σ')
          (own : Broadcast (Option LoraAdapter)), svc'.Replying owes' reply core' →
          svc'.tokenizer = svc.tokenizer → own.resolve "lora_request" 1 = .ok [adapter] →
          svc'.HasRoomFor params [prompt] own core' → svc'.Finds params [prompt] own core' [best] := by
  have hlora : (Broadcast.each loras).resolve "lora_request" prompts.length = .ok loras := if_pos hloras
  obtain ⟨starts, hstarts⟩ := exists_ofPrompt svc.tokenizer (l := prompts.zip loras) (by
    intro p hp
    exact hprompts p.1 (List.of_mem_zip hp).1)
  have hlength : starts.length = prompts.length := by
    rw [← hstarts.length_eq, List.length_zip]
    omega
  refine ⟨_, ?_, finds_alone hreplying hparams hlora hstarts hroom, ?_⟩
  · rw [List.length_map, hlength]
  · intro i prompt adapter best hprompt hadapter hbest σ' svc' owes' core' own hreplying' htokenizer hown hroom'
    obtain ⟨start, hstart, rfl⟩ : ∃ start, starts[i]? = some start ∧ svc.foundFrom reply params start = best := by
      simpa using hbest
    have hpair : (prompts.zip loras)[i]? = some (prompt, adapter) := by
      rw [List.getElem?_zip_eq_some]
      exact ⟨hprompt, hadapter⟩
    obtain ⟨hi, hpair⟩ := List.getElem?_eq_some_iff.mp hpair
    obtain ⟨hi', hstart⟩ := List.getElem?_eq_some_iff.mp hstart
    have hone := (List.forall₂_iff_get.mp hstarts).2 i hi hi'
    simp only [List.get_eq_getElem, hpair, hstart] at hone
    rw [← htokenizer] at hone
    have hfound : svc'.Finds params [prompt] own core' _ :=
      finds_alone hreplying' hparams hown (.cons hone .nil) hroom'
    have hsame : svc'.foundFrom reply params start = svc.foundFrom reply params start := by
      simp only [foundFrom, beamRule, htokenizer]
    rw [List.map_singleton, hsame] at hfound
    exact hfound

/-- A rehearsed engine with given ticks for its requests and a given order of its reports. -/
def pacedPlan (ticks : List Nat) (forward : Bool) : Scripted.Plan :=
  { answers := { offsets := [(1, .zero), (2, .one)] }, alphabet := {}, ticks, forward }

def pacedService (ticks : List Nat) (forward : Bool) : Service Scripted.State :=
  ⟨(pacedPlan ticks forward).engine, Scripted.Alphabet.tokenizer {}, none⟩

def pacedReply (prompt : Prompt) (_ : Option LoraAdapter) (p : SamplingParams) : Generation :=
  (pacedPlan [] true).answers.generation {} { prompt, params := .sampling p, id := ⟨0⟩ } p true

theorem pacedService_replying (ticks : List Nat) (forward : Bool) :
    (pacedService ticks forward).Replying Scripted.Plan.Owes pacedReply ⟨{}, ⟨0⟩, none⟩ where
  runner := rfl
  idle := ⟨.refl _, fun _ h => nomatch h⟩
  replies := by
    apply Scripted.Plan.Faithful.reliable ⟨rfl, rfl, rfl⟩ rfl rfl
    intro r
    refine ⟨Scripted.Answers.id_update _ _ r _ _, ?_⟩
    intro p hp _
    simp only [Scripted.Plan.last, Scripted.Answers.update, hp]
    rfl

def twoTokens : BeamParams := { beamWidth := 2, maxTokens := 2 }

/-- Two prompts searched together on a slow engine that reports backwards, and each alone on a quick one. -/
theorem two_searches_eq_alone : ∃ first second,
    (pacedService [3, 1, 2] false).Finds twoTokens [.ofTokens [10], .ofText "a"] (.each [none, none])
      ⟨{}, ⟨0⟩, none⟩ [first, second] ∧
    (pacedService [] true).Finds twoTokens [.ofTokens [10]] (.one none) ⟨{}, ⟨0⟩, none⟩ [first] ∧
    (pacedService [] true).Finds twoTokens [.ofText "a"] (.one none) ⟨{}, ⟨0⟩, none⟩ [second] := by
  have hparams : twoTokens.verify = .ok () := rfl
  have hprompts : ∀ p ∈ [Prompt.ofTokens [10], .ofText "a"], ∀ rows, p ≠ .embeds rows := by
    intro p hp rows
    rcases List.mem_pair.mp hp with rfl | rfl <;> nofun
  have hloras : [(none : Option LoraAdapter), none].length = [Prompt.ofTokens [10], .ofText "a"].length := rfl
  obtain ⟨found, hlength, hfound, halone⟩ := lockstep_search_eq_alone (pacedService_replying [3, 1, 2] false) hparams
    hprompts hloras (hasRoomFor_of_le hparams (by decide))
  obtain ⟨first, second, rfl⟩ := List.length_eq_two.mp hlength
  refine ⟨first, second, hfound, ?_, ?_⟩
  · exact halone 0 _ none first rfl rfl rfl _ _ _ (.one none) (pacedService_replying [] true) rfl rfl
      (hasRoomFor_of_le hparams (by decide))
  · exact halone 1 _ none second rfl rfl rfl _ _ _ (.one none) (pacedService_replying [] true) rfl rfl
      (hasRoomFor_of_le hparams (by decide))

end Service

end BatchInference
