import BatchInference.Proofs.Beam.Runs

/-!
Why a search asks for twice as many candidates as it keeps beams. A beam loses at most one of its candidates to the
stop token, so that a single beam with more candidates than are kept fills all places, whatever becomes of the
others. A search in which every step offers one beam so many never runs out of beams, and returns as many sequences
as it was asked for.
-/

namespace BatchInference

namespace Hypotheses

variable {rule : BeamRule} {g : Hypotheses} {results : List Generation} {beam : BeamSequence} {result : Generation}
  {position : Candidates} {stopToken : Option TokenId} {tokenizer : Tokenizer}

/-- One of the active beams has a result with more candidates than the given number. -/
def Supplied (width : Nat) (g : Hypotheses) (results : List Generation) : Prop :=
  ∃ p ∈ g.active.zip results, ∃ position, position? p.2 = some position ∧ width < position.entries.length

/-- A beam goes on with all its candidates but one at most. -/
theorem length_entries_le (hposition : position? result = some position) :
    position.entries.length ≤ ((extensions beam result).filter (!endsIn stopToken ·)).length + 1 := by
  have hsplit := List.length_eq_length_filter_add (l := extensions beam result) (endsIn stopToken)
  have hall : (extensions beam result).length = position.entries.length := by
    simp [extensions, hposition]
  have hended : ((extensions beam result).filter (endsIn stopToken)).length ≤ 1 := by
    rw [filter_endsIn_extensions]
    cases stopCandidate? stopToken beam result <;> simp
  omega

/-- One beam with more candidates than are kept fills all places. -/
theorem length_active_of_supplied (h : g.Supplied rule.width results) :
    (g.advance rule results).active.length = rule.width := by
  obtain ⟨p, hp, position, hposition, hmore⟩ := h
  have hfew : position.entries.length ≤ ((extensions p.1 p.2).filter (!endsIn rule.stopToken ·)).length + 1 :=
    length_entries_le hposition
  have hmem : extensions p.1 p.2 ∈ (g.active.zip results).map fun p => extensions p.1 p.2 := List.mem_map_of_mem hp
  have hsub : (extensions p.1 p.2).Sublist (g.expansions results) := List.sublist_flatten_of_mem hmem
  have hcount := (hsub.filter (!endsIn rule.stopToken ·)).length_le
  have hkept : (g.advance rule results).active.length =
      min rule.width ((g.expansions results).filter (!endsIn rule.stopToken ·)).length := BeamRanking.length_keepBest
  omega

theorem length_finish_of_active (h : g.active.length = rule.width) : (g.finish rule tokenizer).length = rule.width := by
  rw [finish, List.length_map, BeamRanking.length_keepBest, pool, List.length_append, h]
  omega

end Hypotheses

/-- A step in which one of the active beams of prompt number `i` has a result with more candidates than the given
number. -/
def SearchStep.Supplies {σ : Type} (width i : Nat) (s : SearchStep σ) : Prop :=
  ∃ g, s.hypotheses[i]? = some g ∧ g.Supplied width (s.handed i)

namespace Service

open Hypotheses

variable {σ τ : Type} {svc : Service σ} {w : World σ τ} {core mid after : Core σ} {ticks i k : Nat}
  {params : BeamParams} {prompts : List Prompt} {lora : Broadcast (Option LoraAdapter)}
  {sink : Option (ProgressSink τ)} {roots hs hs' state : List Hypotheses} {steps : List (SearchStep σ)}
  {found : Except Halt (List (List BeamSequence))}

/-- After a step that supplies a prompt, all places of its search are filled. -/
theorem Steps.filled_of_supplied (h : svc.Steps ticks params steps core hs after hs')
    (hsupplied : ∀ s ∈ steps, s.Supplies params.beamWidth i)
    (hstate : (searchStates steps hs')[k + 1]? = some state) :
    ∃ g, state[i]? = some g ∧ g.active.length = params.beamWidth := by
  obtain ⟨s, hs, rfl⟩ := h.state_succ hstate
  obtain ⟨g, hg, hmore⟩ := hsupplied s hs
  simp only [SearchStep.handed, hg] at hmore
  have hfilled : (g.advance (svc.beamRule params) (share s.hypotheses s.results i g)).active.length =
      params.beamWidth := length_active_of_supplied hmore
  refine ⟨_, ?_, hfilled⟩
  rw [getElem?_advanceAll, hg]
  rfl

/-- A search that starts with a beam for every prompt and is supplied in every step has beams in every state. -/
theorem Steps.busy_of_supplied (h : svc.Steps ticks params steps core hs after hs')
    (hwidth : 1 ≤ params.beamWidth) (hsupplied : ∀ s ∈ steps, s.Supplies params.beamWidth i)
    (hfirst : ∃ g, hs[i]? = some g ∧ g.isExhausted = false) (hstate : (searchStates steps hs')[k]? = some state) :
    ∃ g, state[i]? = some g ∧ g.isExhausted = false := by
  cases k with
  | zero =>
    cases h with
    | none =>
      cases hstate
      exact hfirst
    | cons =>
      cases hstate
      exact hfirst
  | succ k =>
    obtain ⟨g, hg, hlength⟩ := h.filled_of_supplied hsupplied hstate
    refine ⟨g, hg, ?_⟩
    rw [isExhausted, List.isEmpty_eq_false_iff, ← List.length_pos_iff]
    omega

/-- However a search ends, it has a course, and its requests ask for twice as many candidates as beams are kept,
which is at least one more. If in every completed step at least one active beam of a prompt is given at least one
candidate more than beams are kept, then the search of this prompt has all its places filled after every step and is
at no time exhausted; and if the search gives an answer, all steps have been taken and all places are filled with
sequences that are returned. -/
theorem places_filled_when_supplied (hroots : svc.searchRoots prompts params lora = .ok roots)
    (h : (svc.beamSearch ticks prompts params lora sink).Ends w found after) :
    ∃ steps mid hs, svc.Course ticks params w.core roots steps mid hs found after ∧
      params.samplingParams.logprobs = some (2 * params.beamWidth) ∧ params.beamWidth + 1 ≤ 2 * params.beamWidth ∧
      ∀ i < prompts.length, (∀ s ∈ steps, s.Supplies params.beamWidth i) →
        (∀ k state, (searchStates steps hs)[k + 1]? = some state →
          ∃ g, state[i]? = some g ∧ g.active.length = params.beamWidth) ∧
        (∀ state ∈ searchStates steps hs, ∃ g : Hypotheses, state[i]? = some g ∧ g.isExhausted = false) ∧
        ∀ kept, found = .ok kept → steps.length = params.maxTokens ∧
          ∃ best, kept[i]? = some best ∧ best.length = params.beamWidth := by
  obtain ⟨steps, mid, hs, hcourse⟩ := (ends_iff_exists_course hroots).mp h
  obtain ⟨_, hparams, _⟩ := searchRoots_eq_ok.mp hroots
  obtain ⟨hwidth, hcount, hmost⟩ := BeamParams.bounds_of_verify hparams
  have hlogprobs : params.samplingParams.logprobs = some (min (2 * params.beamWidth) maxCount) := rfl
  rw [Nat.min_eq_left hcount] at hlogprobs
  refine ⟨steps, mid, hs, hcourse, hlogprobs, by omega, ?_⟩
  intro i hi hsupplied
  have hfilled : ∀ k (state : List Hypotheses), (searchStates steps hs)[k + 1]? = some state →
      ∃ g, state[i]? = some g ∧ g.active.length = params.beamWidth := by
    intro k state hstate
    exact hcourse.completes.filled_of_supplied hsupplied hstate
  have hbusy : ∀ (k : Nat) (state : List Hypotheses), (searchStates steps hs)[k]? = some state →
      ∃ g, state[i]? = some g ∧ g.isExhausted = false := by
    intro k state hstate
    refine hcourse.completes.busy_of_supplied hwidth hsupplied ?_ hstate
    obtain ⟨hlength, hstarts⟩ := exists_of_searchRoots hroots
    have hroot : i < roots.length := hlength ▸ hi
    obtain ⟨root, hstart⟩ := hstarts roots[i] (List.getElem_mem hroot)
    refine ⟨roots[i], List.getElem?_eq_getElem hroot, ?_⟩
    rw [hstart]
    rfl
  refine ⟨hfilled, ?_, ?_⟩
  · intro state hstate
    obtain ⟨k, hk⟩ := List.getElem?_of_mem hstate
    exact hbusy k state hk
  · rintro kept rfl
    obtain ⟨hstop, rfl⟩ := hcourse.of_found
    obtain ⟨g, hg, hactive⟩ := hbusy steps.length hs (getElem?_searchStates_length steps hs)
    have hall : steps.length = params.maxTokens := by
      refine hstop.resolve_right ?_
      intro hnone
      rw [List.flatMap_eq_nil_iff] at hnone
      rw [isExhausted, hnone g (List.mem_of_getElem? hg)] at hactive
      cases hactive
    obtain ⟨k, hk⟩ : ∃ k, steps.length = k + 1 := ⟨steps.length - 1, by omega⟩
    obtain ⟨g', hg', hlength⟩ := hfilled k hs (hk ▸ getElem?_searchStates_length steps hs)
    refine ⟨hall, g'.finish (svc.beamRule params) svc.tokenizer, ?_, length_finish_of_active hlength⟩
    rw [List.getElem?_map, hg']
    rfl

theorem supplies_of_offersTwo {s : SearchStep σ} {beam : BeamSequence} {done : List BeamSequence} {g : Generation}
    (hhypotheses : s.hypotheses = [⟨[beam], done⟩]) (hresults : s.results = [g]) (hoffers : OffersTwo g) :
    s.Supplies 1 0 := by
  obtain ⟨c, hposition, htokens⟩ := hoffers
  have hlength : c.entries.length = 2 := by
    rw [← List.length_map (·.1), htokens]
    rfl
  refine ⟨⟨[beam], done⟩, ?_, (beam, g), ?_, c, hposition, ?_⟩
  · rw [hhypotheses]
    rfl
  · simp [SearchStep.handed, share, hhypotheses, hresults]
  · rw [hlength]
    exact Nat.one_lt_two

/-- Two steps with two candidates each for the only beam, one of which ends it: a beam is left and returned. -/
theorem offersService_filled : ∃ steps mid hs found best,
    offersService.Course 1 twoSteps offersWorld.core offersStart steps mid hs (.ok found) mid ∧
    (∀ s ∈ steps, s.Supplies 1 0) ∧ steps.length = 2 ∧ found[0]? = some best ∧ best.length = 1 := by
  obtain ⟨steps, mid, go, done, found, hlength, _, hcourse, hoffers⟩ := exists_course_offersService { tokens := [0, 10] }
  have hends : (offersService.beamSearch 1 [stoppedPrompt] twoSteps (.one none) none).Ends offersWorld (.ok found) mid :=
    (ends_iff_exists_course searchRoots_offersStart).mpr ⟨steps, mid, _, hcourse⟩
  have hsupplied : ∀ s ∈ steps, s.Supplies 1 0 := by
    intro s hs
    obtain ⟨beam, done, g, hhypotheses, hresults, hg⟩ := hoffers s hs
    exact supplies_of_offersTwo hhypotheses hresults hg
  obtain ⟨steps', mid', hs, hcourse', _, _, hfilled⟩ := places_filled_when_supplied searchRoots_offersStart hends
  obtain ⟨rfl, rfl, rfl⟩ := hcourse.unique hcourse'
  obtain ⟨_, _, hfound⟩ := hfilled 0 Nat.one_pos hsupplied
  obtain ⟨_, best, hbest, hone⟩ := hfound found rfl
  exact ⟨steps, mid, _, found, best, hcourse, hsupplied, hlength, hbest, hone⟩

end Service

end BatchInference
