import BatchInference.Proofs.Beam.Exhaustive
import BatchInference.Proofs.Beam.Stopping
import BatchInference.Proofs.Beam.Submitted
import BatchInference.Proofs.Session.Asked

/-!
A search that keeps one beam is greedy. The candidates of a beam stand in the order of their tokens, and ranking keeps
the order of those with equal scores; so of the one beam and all its candidates the search goes on with the candidate
of the highest score, and of those with the smallest token. The greedy loop is stated here by itself, as a relation
that has exactly one run of every length, and the search is shown to take its steps.
-/

namespace BatchInference

/-- A sequence with one of the candidates that are reported for it. -/
def BeamSequence.grow (s : BeamSequence) (position : Candidates) (e : TokenId × Logprob) : BeamSequence :=
  s.extend e.1 e.2.logprob position

/-- A sequence as it is returned, with the text of its tokens. -/
def BeamSequence.decoded (s : BeamSequence) (tokenizer : Tokenizer) : BeamSequence :=
  { s with text := some (tokenizer.decode s.tokens) }

/-- Candidates stand in the order of their tokens. -/
theorem Candidates.token_lt_of_place {c : Candidates} {p q : (TokenId × Logprob) × Nat} (hp : p ∈ c.entries.zipIdx)
    (hq : q ∈ c.entries.zipIdx) (hlt : p.2 < q.2) : p.1.1 < q.1.1 := by
  obtain ⟨hi, hp⟩ := List.getElem?_eq_some_iff.mp (List.mem_zipIdx_iff_getElem?.mp hp)
  obtain ⟨hj, hq⟩ := List.getElem?_eq_some_iff.mp (List.mem_zipIdx_iff_getElem?.mp hq)
  rw [← hp, ← hq]
  exact List.pairwise_iff_getElem.mp c.rising p.2 q.2 hi hj hlt

theorem Candidates.entries_insert_ne_nil (c : Candidates) (token : TokenId) (value : Logprob) :
    (c.insert token value).entries ≠ [] := by
  change insertEntry token value c.entries ≠ []
  cases c.entries with
  | nil => exact List.cons_ne_nil _ _
  | cons e rest =>
    rw [insertEntry]
    split
    · exact List.cons_ne_nil _ _
    · split <;> exact List.cons_ne_nil _ _

namespace BeamRanking

variable {r : BeamRanking} {next : List TokenId → Candidates} {s best best' : BeamSequence} {position : Candidates}
  {e e' : TokenId × Logprob} {visited visited' : List BeamSequence}

/-- The candidate that the greedy loop takes: with it the sequence has the highest score, and no candidate of the same
score has a smaller token. -/
structure Picks (r : BeamRanking) (s : BeamSequence) (position : Candidates) (e : TokenId × Logprob) : Prop where
  offered : e ∈ position.entries
  highest : ∀ e' ∈ position.entries, (r.score (s.grow position e')).totalLe (r.score (s.grow position e)) = true
  smallest : ∀ e' ∈ position.entries, r.score (s.grow position e') = r.score (s.grow position e) → e.1 ≤ e'.1

theorem Picks.unique (h : r.Picks s position e) (h' : r.Picks s position e') : e = e' := by
  have hscore : r.score (s.grow position e') = r.score (s.grow position e) :=
    Binary32.totalLe_antisymm (h.highest e' h'.offered) (h'.highest e h.offered)
  have htoken : e.1 = e'.1 :=
    UInt32.le_antisymm (h.smallest e' h'.offered hscore) (h'.smallest e h.offered hscore.symm)
  exact List.inj_on_of_nodup_map position.nodup_tokens h.offered h'.offered htoken

/-- What comes first among the sequences with a candidate is the sequence with the one that is picked. -/
theorem exists_picks_of_first {p : BeamSequence × Nat}
    (h : r.First (position.entries.map (s.grow position)) p) : ∃ e, r.Picks s position e ∧ p.1 = s.grow position e := by
  have hmem := h.mem
  have houtranks := h.outranks
  rw [List.zipIdx_map] at hmem houtranks
  obtain ⟨⟨e, i⟩, he, rfl⟩ := List.mem_map.mp hmem
  -- a candidate that stands later among those of equal score has a larger token
  have hothers : ∀ e' ∈ position.entries, e' = e ∨ (r.before (s.grow position e) (s.grow position e') = true ∧
      (r.before (s.grow position e') (s.grow position e) = true → e.1 < e'.1)) := by
    intro e' he'
    obtain ⟨j, hj⟩ := List.mem_iff_getElem?.mp he'
    have hplace : (e', j) ∈ position.entries.zipIdx := List.mem_zipIdx_iff_getElem?.mpr hj
    rcases houtranks _ (List.mem_map_of_mem hplace) with heq | hout
    · have hij : j = i := congrArg Prod.snd heq
      rw [hij, List.mem_zipIdx_iff_getElem?.mp he] at hj
      exact .inl (Option.some.inj hj).symm
    · exact .inr ⟨hout.1, fun hback => Candidates.token_lt_of_place he hplace (hout.2 hback)⟩
  refine ⟨e, ⟨?_, ?_, ?_⟩, rfl⟩
  · exact List.mem_of_getElem? (List.mem_zipIdx_iff_getElem?.mp he)
  · intro e' he'
    rcases hothers e' he' with rfl | ⟨hbefore, _⟩
    · exact Binary32.totalLe_refl _
    · exact hbefore
  · intro e' he' hscore
    rcases hothers e' he' with rfl | ⟨_, htie⟩
    · exact UInt32.le_refl _
    · refine UInt32.le_of_lt (htie ?_)
      rw [before, hscore]
      exact Binary32.totalLe_refl _

/-- Where one sequence is kept of a sequence with all its candidates, it is the one that is picked, and one is. -/
theorem exists_picks (hposition : position.entries ≠ []) : ∃ e, r.Picks s position e ∧
    r.keepBest 1 (position.entries.map (s.grow position)) = [s.grow position e] := by
  have hpool : position.entries.map (s.grow position) ≠ [] := by simpa
  obtain ⟨p, hfirst, hkept⟩ := exists_first (r := r) hpool
  obtain ⟨e, hpicks, hp⟩ := exists_picks_of_first hfirst
  exact ⟨e, hpicks, hp ▸ hkept⟩

theorem Picks.keepBest_eq (h : r.Picks s position e) :
    r.keepBest 1 (position.entries.map (s.grow position)) = [s.grow position e] := by
  obtain ⟨e', h', hkept⟩ := exists_picks (r := r) (s := s) (List.ne_nil_of_mem h.offered)
  rw [hkept, h.unique h']

/-- The greedy loop from a sequence to the best that it comes to, with the sequences it has taken a step from, in
order. What there is to follow a sequence depends on nothing but its tokens. -/
inductive GreedyRun (r : BeamRanking) (next : List TokenId → Candidates) :
    List BeamSequence → BeamSequence → BeamSequence → Prop
  | done {s : BeamSequence} : GreedyRun r next [] s s
  | step {s best : BeamSequence} {e : TokenId × Logprob} {visited : List BeamSequence}
      (hpicks : r.Picks s (next s.tokens) e) (rest : GreedyRun r next visited (s.grow (next s.tokens) e) best) :
      GreedyRun r next (s :: visited) s best

/-- Where there is always something to follow, the loop can take any number of steps. -/
theorem exists_greedyRun (hnext : ∀ tokens, (next tokens).entries ≠ []) (n : Nat) (s : BeamSequence) :
    ∃ visited best, visited.length = n ∧ r.GreedyRun next visited s best := by
  induction n generalizing s with
  | zero => exact ⟨[], s, rfl, .done⟩
  | succ n ih =>
    obtain ⟨e, hpicks, _⟩ := exists_picks (r := r) (s := s) (hnext s.tokens)
    obtain ⟨visited, best, hlength, hrun⟩ := ih (s.grow (next s.tokens) e)
    exact ⟨s :: visited, best, congrArg (· + 1) hlength, .step hpicks hrun⟩

theorem GreedyRun.unique (h : r.GreedyRun next visited s best) (h' : r.GreedyRun next visited' s best')
    (hlength : visited.length = visited'.length) : visited = visited' ∧ best = best' := by
  induction h generalizing visited' with
  | done =>
    cases h' with
    | done => exact ⟨rfl, rfl⟩
    | step => cases hlength
  | step hpicks _ ih =>
    cases h' with
    | done => cases hlength
    | step hpicks' rest' =>
      cases hpicks.unique hpicks'
      obtain ⟨rfl, rfl⟩ := ih rest' (Nat.succ.inj hlength)
      exact ⟨rfl, rfl⟩

end BeamRanking

namespace Hypotheses

variable {rule : BeamRule} {shown : BeamSequence → Generation} {s : BeamSequence} {position : Candidates}
  {e : TokenId × Logprob}

/-- A search that keeps one beam and ends none goes on with the candidate that is picked. -/
theorem alone_of_picks (hwidth : rule.width = 1) (hstop : rule.stopToken = none)
    (hposition : position? (shown s) = some position) (hpicks : rule.ranking.Picks s position e) :
    alone rule shown ⟨[s], []⟩ = ⟨[s.grow position e], []⟩ := by
  have hoffspring : offspring shown ⟨[s], []⟩ = position.entries.map (s.grow position) := by
    rw [offspring, List.flatMap_singleton, extensions, hposition]
    rfl
  have hgoes : ∀ x ∈ position.entries.map (s.grow position), (!endsIn none x) = true := fun _ _ => rfl
  have hended : ∀ x ∈ position.entries.map (s.grow position), ¬ endsIn none x = true := fun _ _ => Bool.false_ne_true
  have hactive : (alone rule shown ⟨[s], []⟩).active = _ := active_alone
  have hcompleted : (alone rule shown ⟨[s], []⟩).completed = _ := completed_alone
  rw [hoffspring, hstop, List.filter_eq_self.mpr hgoes, hwidth, hpicks.keepBest_eq] at hactive
  rw [hoffspring, hstop, List.filter_eq_nil_iff.mpr hended, List.append_nil] at hcompleted
  cases hnext : alone rule shown ⟨[s], []⟩ with
  | mk active completed =>
    rw [hnext] at hactive hcompleted
    cases hactive
    cases hcompleted
    rfl

theorem finish_singleton {tokenizer : Tokenizer} (hwidth : rule.width = 1) :
    (⟨[s], []⟩ : Hypotheses).finish rule tokenizer = [s.decoded tokenizer] := by
  have hone : rule.width = 0 + 1 := hwidth
  rw [finish, hone, pool, List.nil_append, BeamRanking.keepBest_singleton]
  rfl

end Hypotheses

/-- What an engine reports that looks at nothing but the tokens of a prompt. -/
def reportedByTokens (tokenizer : Tokenizer) (next : List TokenId → Candidates) (prompt : Prompt)
    (_ : Option LoraAdapter) : Option Candidates :=
  some (next (prompt.tokensBy tokenizer))

namespace Service

open Hypotheses

variable {σ τ : Type} {svc : Service σ} {owes : σ → List Request → Prop} {core : Core σ} {params : BeamParams}
  {next : List TokenId → Candidates} {prompt : Prompt} {lora : Broadcast (Option LoraAdapter)}
  {adapter : Option LoraAdapter} {s best : BeamSequence} {visited : List BeamSequence}

/-- The arguments of a search for one prompt of text or tokens pass with parameters that are accepted. -/
theorem searchRoots_single (hrunner : svc.model.runner = .generate) (hparams : params.verify = .ok ())
    (hprompt : ∀ rows, prompt ≠ .embeds rows) (hlora : lora.resolve "lora_request" 1 = .ok [adapter]) :
    svc.searchRoots [prompt] params lora = .ok [⟨[svc.rootOf (prompt, adapter)], []⟩] := by
  obtain ⟨starts, hstarts⟩ := exists_ofPrompt svc.tokenizer (l := [(prompt, adapter)]) (by
    intro p hp
    cases List.mem_singleton.mp hp
    exact hprompt)
  refine searchRoots_eq_ok.mpr ⟨if_pos hrunner, hparams, [adapter], starts, hlora, hstarts, ?_⟩
  rw [starts_eq_map hstarts]
  rfl

/-- From an idle engine, a search that keeps one beam takes the steps of the greedy loop. One beam draws one id in a
step, for which there is always room. -/
theorem steps_of_greedyRun
    (hreliable : svc.engine.Reliable (Update.Reports params (reportedByTokens svc.tokenizer next)) owes)
    (hparams : params.samplingParams.verify = .ok ()) (hwidth : params.beamWidth = 1)
    (hstop : (svc.beamRule params).stopToken = none)
    (hrun : (svc.beamRule params).ranking.GreedyRun next visited s best) (hidle : owes core.engine []) :
    ∃ enough after, ∀ ticks, enough ≤ ticks → ∃ steps,
      svc.Steps ticks params steps core [⟨[s], []⟩] after [⟨[best], []⟩] ∧
      steps.map (·.beams) = visited.map ([·]) := by
  induction hrun generalizing core with
  | done => exact ⟨0, core, fun ticks _ => ⟨[], .none, rfl⟩⟩
  | @step s best e visited hpicks _ ih =>
    have hroom : core.counter.HasRoom (List.flatMap (·.active) [(⟨[s], []⟩ : Hypotheses)]).length :=
      core.counter.next.toNat_lt
    obtain ⟨enough, results, mid, hmid, htells, hstep⟩ :=
      step_served hreliable reports_showing hidle hparams hroom
    have hnext : advanceAll (svc.beamRule params) [⟨[s], []⟩] results = [⟨[s.grow (next s.tokens) e], []⟩] := by
      rw [advanceAll_of_tells htells, List.map_singleton]
      exact congrArg ([·]) (alone_of_picks hwidth hstop (position?_resultShowing _) hpicks)
    obtain ⟨enough', after, hrest⟩ := ih hmid
    refine ⟨max enough enough', after, ?_⟩
    intro ticks hticks
    obtain ⟨steps, hsteps, hbeams⟩ := hrest ticks (by omega)
    rw [← hnext] at hsteps
    refine ⟨⟨core, [⟨[s], []⟩], results⟩ :: steps, .cons nofun (hstep ticks (by omega)) hsteps, ?_⟩
    rw [List.map_cons, hbeams]
    rfl

/-- On an idle and reliable engine that offers after every beam at least one candidate, by the tokens of the beam
alone, a search for one prompt that keeps one beam and ends none is the greedy loop from the tokens of the prompt. The
loop has one run of as many steps as the search may take. The search submits in every step the one request that
continues the sequence the loop is at, submits nothing else, and gives the sequence that the loop comes to. -/
theorem width_one_greedy (hrunner : svc.model.runner = .generate)
    (hreliable : svc.engine.Reliable (Update.Reports params (reportedByTokens svc.tokenizer next)) owes)
    (hidle : owes core.engine []) (hnext : ∀ tokens, (next tokens).entries ≠ []) (hparams : params.verify = .ok ())
    (hwidth : params.beamWidth = 1) (hends : svc.tokenizer.eos = none ∨ params.ignoreEos = true)
    (hprompt : ∀ rows, prompt ≠ .embeds rows) (hlora : lora.resolve "lora_request" 1 = .ok [adapter]) :
    ∃ visited best, visited.length = params.maxTokens ∧
      (svc.beamRule params).ranking.GreedyRun next visited (svc.rootOf (prompt, adapter)) best ∧
      (∀ visited' best', visited'.length = params.maxTokens →
        (svc.beamRule params).ranking.GreedyRun next visited' (svc.rootOf (prompt, adapter)) best' →
        visited' = visited ∧ best' = best) ∧
      ∃ enough after, ∀ ticks, enough ≤ ticks → ∃ steps,
        svc.Course ticks params core [⟨[svc.rootOf (prompt, adapter)], []⟩] steps after [⟨[best], []⟩]
          (.ok [[best.decoded svc.tokenizer]]) after ∧
        steps.map (fun step => EngineUse.submitted (step.uses svc ticks params)) =
          visited.map (fun s => [beamRequest params s]) ∧
        ∀ (τ : Type) (sink : Option (ProgressSink τ)) (w : World σ τ), w.core = core →
          svc.CallAsks ticks sink (.beamSearch [prompt] params lora) w
            (steps.flatMap fun step => step.uses svc ticks params)
            (.ok (.beams [[best.decoded svc.tokenizer]])) after := by
  have hstop : (svc.beamRule params).stopToken = none := stopToken_eq_none hends
  obtain ⟨visited, best, hlength, hrun⟩ := BeamRanking.exists_greedyRun (r := (svc.beamRule params).ranking) hnext
    params.maxTokens (svc.rootOf (prompt, adapter))
  refine ⟨visited, best, hlength, hrun, ?_, ?_⟩
  · intro visited' best' hlength' hrun'
    exact hrun'.unique hrun (hlength'.trans hlength.symm)
  have hroots := searchRoots_single hrunner hparams hprompt hlora
  obtain ⟨enough, after, hserved⟩ := steps_of_greedyRun hreliable (BeamParams.verify_samplingParams hparams) hwidth
    hstop hrun hidle
  refine ⟨enough, after, ?_⟩
  intro ticks hticks
  obtain ⟨steps, hsteps, hbeams⟩ := hserved ticks hticks
  have hall : steps.length = params.maxTokens := by
    have hcount := congrArg List.length hbeams
    rwa [List.length_map, List.length_map, hlength] at hcount
  have hcourse : svc.Course ticks params core [⟨[svc.rootOf (prompt, adapter)], []⟩] steps after [⟨[best], []⟩]
      (.ok [[best.decoded svc.tokenizer]]) after := by
    refine ⟨Nat.le_of_eq hall, hsteps, .ok [⟨[best], []⟩], .outOfSteps (by omega), ?_⟩
    rw [Except.map, List.map_singleton, finish_singleton hwidth]
  refine ⟨steps, hcourse, ?_, ?_⟩
  · have hrequests : (steps.map (·.beams)).map (·.map (beamRequest params)) =
        steps.map fun step => EngineUse.submitted (step.uses svc ticks params) := by
      rw [List.map_map]
      exact List.map_congr_left fun step hstep => (hsteps.submitted hparams step hstep).symm
    rw [← hrequests, hbeams, List.map_map]
    rfl
  · rintro τ sink w rfl
    have hasks : svc.CallAsks ticks sink (.beamSearch [prompt] params lora) w _ _ after := hcourse.callAsks hroots
    rw [searchUses, stopUses, if_pos (.inl (by omega)), List.append_nil] at hasks
    exact hasks

/-- An engine that offers after every token the second token after it, with log-probability one, and the first, with
the given one. -/
def twoAheadPlan (first : Binary32) : Scripted.Plan where
  answers := { offsets := [(2, .one), (1, first)] }
  alphabet := {}

def twoAheadService (first : Binary32) : Service Scripted.State :=
  ⟨(twoAheadPlan first).engine, Scripted.Alphabet.tokenizer {}, none⟩

def tiedService : Service Scripted.State := twoAheadService .one

def oneBeam : BeamParams := { beamWidth := 1, maxTokens := 2, ignoreEos := true }

def twoAhead (first : Binary32) (tokens : List TokenId) : List (TokenId × Binary32) :=
  let last := (tokens.getLast?.getD 1).toNat
  [(UInt32.ofInt (last + 2), .one), (UInt32.ofInt (last + 1), first)]

def twoAheadNext (first : Binary32) (tokens : List TokenId) : Candidates :=
  Scripted.Answers.reportedCandidates 2 (twoAhead first tokens)

theorem shown_twoAheadPlan {first : Binary32} (hbest : first.totalLe .one = true) (beam : BeamSequence) :
    (twoAheadPlan first).shown oneBeam beam.toPrompt beam.lora = some (twoAheadNext first beam.tokens) := by
  have hsorted : (twoAhead first beam.tokens).Pairwise fun x y => y.2.totalLe x.2 = true :=
    List.pairwise_pair.mpr hbest
  have hranked : (twoAheadPlan first).answers.ranked {} beam.tokens = twoAhead first beam.tokens :=
    List.mergeSort_of_pairwise hsorted
  have hcontinued : (twoAheadPlan first).answers.aborts beam.tokens = false := by
    simp [Scripted.Answers.aborts, twoAheadPlan]
  have hcount : min (2 * oneBeam.beamWidth) maxCount = 2 := by decide
  have hshown : (twoAheadPlan first).shown oneBeam beam.toPrompt beam.lora =
      (twoAheadPlan first).answers.shown {} 2 beam.tokens := by
    rw [← hcount]
    rfl
  rw [hshown, Scripted.Answers.shown, hranked, hcontinued]
  rfl

theorem reports_twoAheadPlan {first : Binary32} (hbest : first.totalLe .one = true) (r : Request) :
    Update.Reports oneBeam (reportedByTokens (twoAheadService first).tokenizer (twoAheadNext first)) r
      ((twoAheadPlan first).last r) := by
  have hlast : Update.Reports oneBeam ((twoAheadPlan first).shown oneBeam) r ((twoAheadPlan first).last r) :=
    reports_last rfl oneBeam r
  obtain ⟨hid, hshows⟩ := hlast
  refine ⟨hid, ?_⟩
  intro beam hr
  obtain ⟨g, hu, hposition⟩ := hshows beam hr
  exact ⟨g, hu, hposition.trans (shown_twoAheadPlan hbest beam)⟩

/-- Two steps of the loop, from the token 97 to these tokens. -/
def LoopsTo (first : Binary32) (tokens : List TokenId) : Prop :=
  ∃ s best : BeamSequence, s.toPrompt = .ofTokens (tokens.take 2) ∧ best.tokens = tokens ∧
    ((twoAheadService first).beamRule oneBeam).ranking.GreedyRun (twoAheadNext first) [{ tokens := [97] }, s]
      { tokens := [97] } best

/-- Of candidates with equal scores the loop takes the first token, although the engine ranks the other one first. -/
theorem loopsTo_tied : LoopsTo .one [97, 98, 99] := by
  have hfirst : ((twoAheadService .one).beamRule oneBeam).ranking.Picks { tokens := [97] } (twoAheadNext .one [97])
      (98, ⟨.one, some 2, none⟩) := ⟨by decide, by decide, by decide⟩
  have hsecond : ((twoAheadService .one).beamRule oneBeam).ranking.Picks
      (BeamSequence.grow { tokens := [97] } (twoAheadNext .one [97]) (98, ⟨.one, some 2, none⟩))
      (twoAheadNext .one [97, 98]) (99, ⟨.one, some 2, none⟩) := ⟨by decide, by decide, by decide⟩
  exact ⟨_, _, rfl, rfl, .step hfirst (.step hsecond .done)⟩

/-- Where the first token scores lower it takes the second. -/
theorem loopsTo_untied : LoopsTo .zero [97, 99, 101] := by
  have hfirst : ((twoAheadService .zero).beamRule oneBeam).ranking.Picks { tokens := [97] } (twoAheadNext .zero [97])
      (99, ⟨.one, some 1, none⟩) := ⟨by decide, by decide, by decide⟩
  have hsecond : ((twoAheadService .zero).beamRule oneBeam).ranking.Picks
      (BeamSequence.grow { tokens := [97] } (twoAheadNext .zero [97]) (99, ⟨.one, some 1, none⟩))
      (twoAheadNext .zero [97, 99]) (101, ⟨.one, some 1, none⟩) := ⟨by decide, by decide, by decide⟩
  exact ⟨_, _, rfl, rfl, .step hfirst (.step hsecond .done)⟩

/-- A call for the text "a" that takes two steps, asks in each of them for what follows the tokens so far, and answers
with the text of these tokens. -/
def GoesOn (svc : Service Scripted.State) (tokens : List TokenId) (text : String) : Prop :=
  ∃ ticks steps best after,
    svc.Steps ticks oneBeam steps offersWorld.core [⟨[{ tokens := [97] }], []⟩] after [⟨[best], []⟩] ∧
    best.tokens = tokens ∧
    steps.map (fun step => (EngineUse.submitted (step.uses svc ticks oneBeam)).map (·.prompt)) =
      [[.ofTokens [97]], [.ofTokens (tokens.take 2)]] ∧
    svc.CallAsks ticks none (.beamSearch [.ofText "a"] oneBeam (.one none)) offersWorld
      (steps.flatMap fun step => step.uses svc ticks oneBeam)
      (.ok (.beams [[{ best with text := some text }]])) after

/-- Two steps add the two letters that follow the prompt where both candidates have equal scores, and otherwise those
with the higher score. -/
theorem tiedService_greedy :
    tiedService.GoesOn [97, 98, 99] "abc" ∧ (twoAheadService .zero).GoesOn [97, 99, 101] "ace" := by
  have hgoes : ∀ first tokens, first.totalLe .one = true → LoopsTo first tokens →
      (twoAheadService first).GoesOn tokens ((twoAheadService first).tokenizer.decode tokens) := by
    intro first tokens hbest hloops
    have hreliable : (twoAheadService first).engine.Reliable
        (Update.Reports oneBeam (reportedByTokens (twoAheadService first).tokenizer (twoAheadNext first)))
        Scripted.Plan.Owes :=
      Scripted.Plan.Faithful.reliable ⟨rfl, rfl, rfl⟩ rfl rfl (reports_twoAheadPlan hbest)
    have hidle : Scripted.Plan.Owes offersWorld.core.engine [] := ⟨.refl _, fun _ h => nomatch h⟩
    have hnext : ∀ tokens, (twoAheadNext first tokens).entries ≠ [] :=
      fun tokens => Candidates.entries_insert_ne_nil _ _ _
    have hprompt : ∀ rows, Prompt.ofText "a" ≠ .embeds rows := nofun
    have hlora : (Broadcast.one (none : Option LoraAdapter)).resolve "lora_request" 1 = .ok [none] := rfl
    obtain ⟨visited, best, _, _, hunique, enough, after, hserved⟩ := width_one_greedy rfl hreliable hidle hnext rfl
      rfl (.inr rfl) hprompt hlora
    obtain ⟨s, best', hs, htokens, hrun⟩ := hloops
    obtain ⟨rfl, rfl⟩ := hunique _ best' rfl hrun
    obtain ⟨steps, hcourse, hrequests, hasks⟩ := hserved enough (Nat.le_refl _)
    refine ⟨enough, steps, best', after, hcourse.completes, htokens, ?_, ?_⟩
    · have hprompts := congrArg (List.map (List.map (·.prompt))) hrequests
      rw [List.map_map, Function.comp_def] at hprompts
      rw [hprompts]
      simp only [List.map_cons, List.map_nil, beamRequest, hs]
      rfl
    · have htext := congrArg (twoAheadService first).tokenizer.decode htokens
      have hcall := hasks Unit none offersWorld rfl
      rw [BeamSequence.decoded, htext] at hcall
      exact hcall
  have htied : (twoAheadService .one).tokenizer.decode [97, 98, 99] = "abc" := by decide
  have huntied : (twoAheadService .zero).tokenizer.decode [97, 99, 101] = "ace" := by decide
  constructor
  · exact htied ▸ hgoes .one _ rfl loopsTo_tied
  · exact huntied ▸ hgoes .zero _ rfl loopsTo_untied

end Service

end BatchInference
