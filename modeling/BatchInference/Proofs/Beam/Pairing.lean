import BatchInference.Proofs.Batch.Order
import BatchInference.Proofs.Beam.Ranking
import BatchInference.Proofs.Beam.Steps
import BatchInference.Scripted.Engine

/-!
Which result a beam is extended by. The results of a step are put in the order of their ids and handed to the beams
in the order in which their requests were made. That is each beam's own result exactly if every request of the step
was reported finished once, nothing else was, and the ids did not come round within the step; an engine that loses
or repeats updates, or a counter at its end, is not noticed by counting the results.
-/

namespace BatchInference

namespace Hypotheses

/-- The active beams of all prompts with the results they are extended by. -/
def pairs : List Hypotheses → List Generation → List (BeamSequence × Generation)
  | [], _ => []
  | h :: rest, results =>
    h.active.zip (results.take h.active.length) ++ pairs rest (results.drop h.active.length)

/-- What a step finds extends a beam by a result it is paired with. -/
theorem mem_pool_advanceAll {rule : BeamRule} {hs : List Hypotheses} {results : List Generation} {h' : Hypotheses}
    (hh' : h' ∈ advanceAll rule hs results) {s : BeamSequence} (hs' : s ∈ h'.pool) :
    (∃ h ∈ hs, s ∈ h.completed) ∨ ∃ p ∈ pairs hs results, s ∈ extensions p.1 p.2 := by
  induction hs generalizing results with
  | nil => cases hh'
  | cons h rest ih =>
    rcases List.mem_cons.mp hh' with rfl | hrest
    · have hexpansion : ∀ t ∈ h.expansions (results.take h.active.length),
          ∃ p ∈ pairs (h :: rest) results, t ∈ extensions p.1 p.2 := by
        intro t ht
        obtain ⟨p, hp, htp⟩ := List.mem_flatMap.mp ht
        exact ⟨p, List.mem_append_left _ hp, htp⟩
      simp only [pool, advance, List.mem_append, List.mem_filter] at hs'
      rcases hs' with (hcompleted | ⟨hnew, _⟩) | hactive
      · exact .inl ⟨h, List.mem_cons_self, hcompleted⟩
      · exact .inr (hexpansion s hnew)
      · have hmem := BeamRanking.mem_of_mem_keepBest hactive
        exact .inr (hexpansion s (List.mem_of_mem_filter hmem))
    · rcases ih hrest with ⟨g, hg, hcompleted⟩ | ⟨p, hp, hextends⟩
      · exact .inl ⟨g, List.mem_cons_of_mem h hg, hcompleted⟩
      · exact .inr ⟨p, List.mem_append_right _ hp, hextends⟩

/-- With one result for each beam, the pairing goes straight through all prompts. -/
theorem pairs_eq_zip {hs : List Hypotheses} {results : List Generation}
    (h : results.length = (hs.flatMap (·.active)).length) :
    pairs hs results = (hs.flatMap (·.active)).zip results := by
  induction hs generalizing results with
  | nil => rfl
  | cons g rest ih =>
    rw [List.flatMap_cons, List.length_append] at h
    have htake : (results.take g.active.length).length = g.active.length := by
      rw [List.length_take]
      omega
    have hdrop : (results.drop g.active.length).length = (rest.flatMap (·.active)).length := by
      rw [List.length_drop]
      omega
    rw [pairs, ih hdrop, List.flatMap_cons, ← List.zip_append htake.symm, List.take_append_drop]

end Hypotheses

namespace SearchStep

variable {σ : Type} {s : SearchStep σ} {svc : Service σ} {ticks : Nat} {params : BeamParams} {after : Core σ}

/-- Every active beam is extended by the result of the request that was made for it. -/
def Own (s : SearchStep σ) (params : BeamParams) : Prop :=
  List.Forall₂ (fun r p => r.toPendingRequest = beamRequest params p.1 ∧ p.2.id = r.id) (s.requests params)
    (Hypotheses.pairs s.hypotheses s.results)

/-- Whatever is new after the step extends a beam by the result it is paired with. -/
def Extends (s : SearchStep σ) (rule : BeamRule) : Prop :=
  ∀ h ∈ Hypotheses.advanceAll rule s.hypotheses s.results, ∀ t ∈ h.pool,
    (∃ g ∈ s.hypotheses, t ∈ g.completed) ∨
      ∃ p ∈ Hypotheses.pairs s.hypotheses s.results, t ∈ Hypotheses.extensions p.1 p.2

private theorem forall₂_zip_iff {f : BeamSequence → PendingRequest} {requests : List Request}
    {beams : List BeamSequence} {results : List Generation}
    (hrequests : requests.map (·.toPendingRequest) = beams.map f) (hlength : results.length = beams.length) :
    List.Forall₂ (fun r p => r.toPendingRequest = f p.1 ∧ p.2.id = r.id) requests (beams.zip results) ↔
      results.map (·.id) = requests.map (·.id) := by
  induction requests generalizing beams results with
  | nil =>
    have hbeams : beams = [] := List.map_eq_nil_iff.mp hrequests.symm
    subst hbeams
    have hresults : results = [] := List.eq_nil_of_length_eq_zero hlength
    subst hresults
    simp
  | cons r rest ih =>
    cases beams with
    | nil => cases hrequests
    | cons b beams =>
      obtain ⟨g, results, rfl⟩ := List.exists_cons_of_length_eq_add_one hlength
      simp only [List.map_cons, List.cons.injEq] at hrequests
      obtain ⟨hr, hrest⟩ := hrequests
      simp only [List.length_cons, Nat.add_right_cancel_iff] at hlength
      rw [List.zip_cons_cons, List.forall₂_cons, ih hrest hlength, List.map_cons, List.map_cons, List.cons.injEq]
      constructor
      · rintro ⟨⟨_, hid⟩, hids⟩
        exact ⟨hid, hids⟩
      · rintro ⟨hid, hids⟩
        exact ⟨⟨hr, hid⟩, hids⟩

theorem own_iff_ids (hlength : s.results.length = s.beams.length) :
    s.Own params ↔ s.results.map (·.id) = s.core.counter.ids s.beams.length := by
  have hpairs : Hypotheses.pairs s.hypotheses s.results = s.beams.zip s.results := Hypotheses.pairs_eq_zip hlength
  have hrequests : (s.requests params).map (·.toPendingRequest) = s.beams.map (beamRequest params) :=
    s.core.counter.toPendingRequest_number _
  have hids : (s.requests params).map (·.id) = s.core.counter.ids s.beams.length := by
    rw [requests, IdCounter.ids_number, List.length_map]
  unfold Own
  rw [hpairs, ← hids]
  exact forall₂_zip_iff hrequests hlength

/-- In a step that is completed, the beams get their own results exactly if the requests of the step, and nothing
else, were reported finished once each, and the counter does not come round within the step. -/
theorem own_iff (h : svc.stepEnd ticks params s.beams s.core = (.ok s.results, after)) :
    s.Own params ↔
      ((s.work svc ticks params).finished.map (·.id)).Perm (s.core.counter.ids s.beams.length) ∧
        s.core.counter.HasRoom s.beams.length := by
  obtain ⟨_, _, hsorted, hlength, _⟩ := Service.exists_of_stepEnd h
  have hids : (Update.sorted (s.work svc ticks params).finished).map (·.id) = s.results.map (·.id) := by
    rw [hsorted, List.map_map]
    rfl
  rw [own_iff_ids hlength, ← hids]
  exact Update.ids_sorted_eq_iff

end SearchStep

namespace Service

variable {σ τ : Type} {svc : Service σ} {w : World σ τ} {core after : Core σ} {ticks : Nat} {params : BeamParams}
  {prompts : List Prompt} {lora : Broadcast (Option LoraAdapter)} {sink : Option (ProgressSink τ)}
  {roots hs hs' : List Hypotheses}

theorem Steps.forall_mem {steps : List (SearchStep σ)} (h : svc.Steps ticks params steps core hs after hs')
    {P : SearchStep σ → Prop}
    (hP : ∀ s mid, svc.stepEnd ticks params s.beams s.core = (.ok s.results, mid) → P s) : ∀ s ∈ steps, P s := by
  induction h with
  | none =>
    intro s hs
    cases hs
  | cons _ hstep _ ih =>
    intro s hs
    rcases List.mem_cons.mp hs with rfl | hrest
    · exact hP _ _ hstep
    · exact ih s hrest

/-- However a beam search ends, it is a number of completed steps and a stop; and in each of the completed steps
beams are extended by nothing but the results they are paired with, which are their own exactly if the ids reported
finished are those drawn in the step, once each, and the counter does not come round within the step. -/
theorem beam_results_own_iff (hroots : svc.searchRoots prompts params lora = .ok roots) (hw : w.core = core)
    {found : Except Halt (List (List BeamSequence))}
    (h : (svc.beamSearch ticks prompts params lora sink).Ends w found after) :
    ∃ steps left mid hs result, steps.length + left = params.maxTokens ∧
      svc.Steps ticks params steps core roots mid hs ∧ svc.Stops ticks params left mid hs result after ∧
      found = result.map (fun hs => hs.map (·.finish (svc.beamRule params) svc.tokenizer)) ∧
      ∀ s ∈ steps, s.Extends (svc.beamRule params) ∧ (s.Own params ↔
        ((s.work svc ticks params).finished.map (·.id)).Perm (s.core.counter.ids s.beams.length) ∧
          s.core.counter.HasRoom s.beams.length) := by
  obtain ⟨steps, left, mid, hs, result, hlength, hsteps, hstops, hfound⟩ :=
    (beamSearch_ends_iff hroots hw).mp h
  refine ⟨steps, left, mid, hs, result, hlength, hsteps, hstops, hfound, hsteps.forall_mem ?_⟩
  intro s _ hstep
  constructor
  · intro h hh t ht
    exact Hypotheses.mem_pool_advanceAll hh ht
  · exact SearchStep.own_iff hstep

/-- A service whose engine takes one tick for every request and reports in the order of submission. -/
def promptService : Service Scripted.State :=
  ⟨({ answers := { offsets := [(1, .zero)] }, alphabet := {}, forward := true } : Scripted.Plan).engine,
    Scripted.Alphabet.tokenizer {}, none⟩

def oneToken : BeamParams := { beamWidth := 1, maxTokens := 1 }

def twoRoots : List Hypotheses := [⟨[{ tokens := [10] }], []⟩, ⟨[{ tokens := [40] }], []⟩]

/-- A world whose counter has one id left before it comes round. -/
def lastIdWorld : World Scripted.State Unit where
  engine := {}
  counter := ⟨18446744073709551615⟩
  sink := ()

theorem searchRoots_twoRoots :
    promptService.searchRoots [.ofTokens [10], .ofTokens [40]] oneToken (.one none) = .ok twoRoots := rfl

theorem exists_step_lastIdWorld : ∃ results mid, promptService.stepEnd 1 oneToken (twoRoots.flatMap (·.active))
    lastIdWorld.core = (.ok results, mid) := by
  obtain ⟨us, g, h, hus, hfinished⟩ : ∃ us g h,
      (SearchStep.work ⟨lastIdWorld.core, twoRoots, []⟩ promptService 1 oneToken).finished = us ∧
      us = [.generation g, .generation h] := ⟨_, _, _, rfl, rfl⟩
  have hkind : ∀ u ∈ Update.sorted us, u.sort = .generation := by
    intro u hu
    rw [(Update.sorted_perm us).mem_iff, hfinished] at hu
    rcases List.mem_pair.mp hu with rfl | rfl <;> rfl
  obtain ⟨results, hresults⟩ := Update.exists_generations hkind
  have hlength : results.length = 2 := by
    have hcount := congrArg List.length hresults
    rw [List.length_map, Update.length_sorted, hfinished] at hcount
    exact hcount
  subst hus
  exact ⟨results, _, stepEnd_eq_ok (s := ⟨lastIdWorld.core, twoRoots, results⟩) rfl rfl rfl hresults.symm hlength⟩

/-- Two prompts on a counter that comes round between their requests: the search ends with an answer, but its beams
are not extended by their own results. -/
theorem results_swapped_when_ids_come_round : ∃ s mid hs found,
    promptService.Steps 1 oneToken [s] lastIdWorld.core twoRoots mid hs ∧
    (promptService.beamSearch 1 [.ofTokens [10], .ofTokens [40]] oneToken (.one none) none).Ends lastIdWorld
      (.ok found) mid ∧
    ¬ s.Own oneToken := by
  obtain ⟨results, mid, hstep⟩ := exists_step_lastIdWorld
  have hsteps : promptService.Steps 1 oneToken _ lastIdWorld.core twoRoots _ _ := .cons nofun hstep .none
  have hends : (promptService.beamSearch 1 [.ofTokens [10], .ofTokens [40]] oneToken (.one none) none).Ends
      lastIdWorld _ mid :=
    (beamSearch_ends_iff searchRoots_twoRoots rfl).mpr
      ⟨_, 0, _, _, .ok _, rfl, hsteps, .outOfSteps rfl, rfl⟩
  refine ⟨_, mid, _, _, hsteps, hends, ?_⟩
  intro hown
  have hroom : lastIdWorld.core.counter.HasRoom 2 :=
    ((SearchStep.own_iff (s := ⟨lastIdWorld.core, twoRoots, results⟩) hstep).mp hown).2
  exact absurd hroom (by decide)

/-- The same search, told by its steps. -/
theorem search_told_when_ids_come_round : ∃ found after steps left mid hs result,
    (promptService.beamSearch 1 [.ofTokens [10], .ofTokens [40]] oneToken (.one none) none).Ends lastIdWorld
      found after ∧
    steps.length + left = oneToken.maxTokens ∧
    promptService.Steps 1 oneToken steps lastIdWorld.core twoRoots mid hs ∧
    promptService.Stops 1 oneToken left mid hs result after ∧
    found = result.map (fun hs => hs.map (·.finish (promptService.beamRule oneToken) promptService.tokenizer)) ∧
    ∀ s ∈ steps, s.Extends (promptService.beamRule oneToken) ∧ (s.Own oneToken ↔
      ((s.work promptService 1 oneToken).finished.map (·.id)).Perm (s.core.counter.ids s.beams.length) ∧
        s.core.counter.HasRoom s.beams.length) := by
  have hends := Run.ends_outcome
    (promptService.beamSearch 1 [.ofTokens [10], .ofTokens [40]] oneToken (.one none) none) lastIdWorld
  obtain ⟨steps, left, mid, hs, result, htold⟩ := beam_results_own_iff searchRoots_twoRoots rfl hends
  exact ⟨_, _, steps, left, mid, hs, result, hends, htold⟩

end Service

end BatchInference
