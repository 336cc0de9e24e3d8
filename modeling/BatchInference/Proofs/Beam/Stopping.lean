import BatchInference.Proofs.Beam.Generated
import BatchInference.Proofs.Beam.Runs

/-!
Beams that have ended are not continued. Where the end-of-sequence token ends a beam, it is generated once for every
completed beam, as the last token, and never for an active one, so that the engine is never asked to go on after it;
a prompt may hold the token all the same. Where nothing ends a beam, every sequence grows until the last step.
-/

namespace BatchInference

namespace Hypotheses

variable {rule : BeamRule} {stop : TokenId} {root s : BeamSequence} {rs : List (List Generation)}

/-- Of the tokens generated after a prompt, the given one ends every completed beam and is found nowhere else. -/
structure StopsOnlyAt (stop : TokenId) (prompt : List TokenId) (h : Hypotheses) : Prop where
  active : ∀ s ∈ h.active, ∃ generated, s.tokens = prompt ++ generated ∧ stop ∉ generated
  completed : ∀ s ∈ h.completed, ∃ generated, s.tokens = prompt ++ generated ++ [stop] ∧ stop ∉ generated

theorem stopsOnlyAt_run (hstop : rule.stopToken = some stop) (root : BeamSequence) (rs : List (List Generation)) :
    (run rule root rs).StopsOnlyAt stop root.tokens := by
  obtain ⟨hactive, hcompleted⟩ := run_generated rule root rs
  constructor
  · intro s hs
    obtain ⟨generated, _, htokens, hnone⟩ := hactive s hs
    refine ⟨generated, htokens, ?_⟩
    intro hmem
    exact hnone stop hmem hstop
  · intro s hs
    obtain ⟨n, _, generated, last, hlast, _, htokens, hnot⟩ := hcompleted s hs
    have hsame : last = stop := Option.some.inj (hlast.symm.trans hstop)
    rw [hsame] at htokens hnot
    exact ⟨generated, htokens, hnot⟩

theorem completed_run_eq_nil (hstop : rule.stopToken = none) (root : BeamSequence) (rs : List (List Generation)) :
    (run rule root rs).completed = [] := by
  rw [List.eq_nil_iff_forall_not_mem]
  intro s hs
  obtain ⟨n, _, generated, last, hlast, _⟩ := (run_generated rule root rs).2 s hs
  rw [hstop] at hlast
  cases hlast

/-- Where nothing ends a beam, what is returned has a token for each step. -/
theorem exists_generated_of_mem_finish {tokenizer : Tokenizer} (hstop : rule.stopToken = none)
    (hs : s ∈ (run rule root rs).finish rule tokenizer) :
    ∃ generated, generated.length = rs.length ∧ s.tokens = root.tokens ++ generated := by
  obtain ⟨t, ht, rfl⟩ := List.mem_map.mp hs
  have hpool := BeamRanking.mem_of_mem_keepBest ht
  rw [pool, completed_run_eq_nil hstop, List.nil_append] at hpool
  obtain ⟨generated, hlength, htokens, _⟩ := (run_generated rule root rs).1 t hpool
  exact ⟨generated, hlength, htokens⟩

end Hypotheses

namespace Service

open Hypotheses

variable {σ τ : Type} {svc : Service σ} {w : World σ τ} {after : Core σ} {ticks : Nat} {params : BeamParams}
  {prompts : List Prompt} {lora : Broadcast (Option LoraAdapter)} {sink : Option (ProgressSink τ)}
  {roots : List Hypotheses} {found : Except Halt (List (List BeamSequence))}

theorem stopToken_of_eos {eos : TokenId} (heos : svc.tokenizer.eos = some eos) (hends : params.ignoreEos = false) :
    (svc.beamRule params).stopToken = some eos := by
  simp [beamRule, heos, hends]

theorem stopToken_eq_none (h : svc.tokenizer.eos = none ∨ params.ignoreEos = true) :
    (svc.beamRule params).stopToken = none := by
  rcases h with heos | hignored
  · simp [beamRule, heos]
  · simp [beamRule, hignored]

/-- The request continues a beam that is active for one of the prompts, and the given token is not among those that
have been generated for the beam. -/
def ContinuesWithout (svc : Service σ) (prompts : List Prompt) (states : List (List Hypotheses)) (stop : TokenId)
    (r : Request) : Prop :=
  ∃ state ∈ states, ∃ (i : Nat) (prompt : Prompt) (g : Hypotheses), prompts[i]? = some prompt ∧ state[i]? = some g ∧
    ∃ beam ∈ g.active, ∃ generated,
      r.prompt = .tokens (prompt.tokensBy svc.tokenizer ++ generated) none beam.companions ∧ stop ∉ generated

/-- However a search ends, it has a course, in which no beam that has ended goes on. Where the end-of-sequence token
ends a beam, every state of every prompt's search has it as the last token generated for each completed beam and
nowhere else among the tokens generated, and so no request that the engine was ever offered has it there. Where the
token is ignored, or there is none, no state has a completed beam, and what is returned has grown in every step. -/
theorem ended_beams_never_continued (hroots : svc.searchRoots prompts params lora = .ok roots)
    (h : (svc.beamSearch ticks prompts params lora sink).Ends w found after) :
    ∃ steps mid hs, svc.Course ticks params w.core roots steps mid hs found after ∧
      (∀ eos, svc.tokenizer.eos = some eos → params.ignoreEos = false →
        (∀ state ∈ searchStates steps hs, List.Forall₂ (fun prompt (g : Hypotheses) =>
          g.StopsOnlyAt eos (prompt.tokensBy svc.tokenizer)) prompts state) ∧
        ∀ uses, ∃ asked,
          (svc.recorded.beamSearch ticks prompts params lora sink).Ends (w.recorded uses) found
            (after.recorded (uses ++ asked)) ∧
          ∀ r, .offered r ∈ asked → svc.ContinuesWithout prompts (searchStates steps hs) eos r) ∧
      (svc.tokenizer.eos = none ∨ params.ignoreEos = true →
        (∀ state ∈ searchStates steps hs, ∀ g ∈ state, g.completed = []) ∧
        ∀ kept, found = .ok kept → List.Forall₂ (fun prompt best => ∀ s ∈ best, ∃ generated : List TokenId,
          generated.length = steps.length ∧ s.tokens = prompt.tokensBy svc.tokenizer ++ generated) prompts kept) := by
  obtain ⟨steps, mid, hs, hcourse⟩ := (ends_iff_exists_course hroots).mp h
  refine ⟨steps, mid, hs, hcourse, ?_, ?_⟩
  · intro eos heos hends
    have hstates : ∀ state ∈ searchStates steps hs, List.Forall₂ (fun prompt (g : Hypotheses) =>
        g.StopsOnlyAt eos (prompt.tokensBy svc.tokenizer)) prompts state := by
      intro state hstate
      obtain ⟨k, hk⟩ := List.getElem?_of_mem hstate
      refine (hcourse.completes.forall₂_run hroots hk).imp ?_
      rintro prompt _ ⟨root, rs, ⟨adapter, hroot⟩, _, rfl⟩
      have hruns := stopsOnlyAt_run (stopToken_of_eos heos hends) root rs
      rwa [BeamSequence.ofPrompt_eq_ok hroot] at hruns ⊢
    refine ⟨hstates, ?_⟩
    intro uses
    refine ⟨_, hcourse.recorded hroots uses, ?_⟩
    intro r hr
    obtain ⟨state, hstate, g, hg, beam, hbeam, hrequest⟩ := exists_state_of_offered hr
    obtain ⟨i, hi⟩ := List.getElem?_of_mem hg
    obtain ⟨prompt, hprompt, hstops⟩ := exists_getElem?_of_forall₂ (hstates state hstate) hi
    obtain ⟨generated, htokens, hnot⟩ := hstops.active beam hbeam
    refine ⟨state, hstate, i, prompt, g, hprompt, hi, beam, hbeam, generated, ?_, hnot⟩
    have hsame := congrArg PendingRequest.prompt hrequest
    rw [← htokens]
    exact hsame
  · intro hnothing
    have hstop := stopToken_eq_none hnothing
    constructor
    · intro state hstate g hg
      obtain ⟨k, hk⟩ := List.getElem?_of_mem hstate
      obtain ⟨i, hi⟩ := List.getElem?_of_mem hg
      obtain ⟨_, _, root, rs, _, _, rfl⟩ :=
        exists_getElem?_of_forall₂ (hcourse.completes.forall₂_run hroots hk) hi
      exact completed_run_eq_nil hstop root rs
    · rintro kept rfl
      obtain ⟨_, rfl⟩ := hcourse.of_found
      rw [List.forall₂_map_right_iff]
      refine (hcourse.completes.forall₂_run hroots (getElem?_searchStates_length steps hs)).imp ?_
      rintro prompt _ ⟨root, rs, ⟨adapter, hroot⟩, hlength, rfl⟩ s hs
      obtain ⟨generated, hgenerated, htokens⟩ := exists_generated_of_mem_finish hstop hs
      rw [BeamSequence.ofPrompt_eq_ok hroot] at htokens
      exact ⟨generated, hgenerated.trans hlength, htokens⟩

/-- A prompt with the end-of-sequence token in it, for which two beams are completed: the token ends each of them, and
none of the requests is for a prompt that has it after the prompt of the search. -/
theorem stoppedPrompt_never_continued : ∃ steps mid final found asked,
    offersService.Course 1 twoSteps offersWorld.core offersStart steps mid [final] (.ok found) mid ∧
    final.completed.length = 2 ∧ final.StopsOnlyAt 0 [0, 10] ∧
    (offersService.recorded.beamSearch 1 [stoppedPrompt] twoSteps (.one none) none).Ends (offersWorld.recorded [])
      (.ok found) (mid.recorded asked) ∧
    ∀ r, .offered r ∈ asked → offersService.ContinuesWithout [stoppedPrompt] (searchStates steps [final]) 0 r := by
  obtain ⟨steps, mid, go, done, found, _, hdone, hcourse, _⟩ := exists_course_offersService { tokens := [0, 10] }
  have hends : (offersService.beamSearch 1 [stoppedPrompt] twoSteps (.one none) none).Ends offersWorld (.ok found) mid :=
    (ends_iff_exists_course searchRoots_offersStart).mpr ⟨steps, mid, _, hcourse⟩
  obtain ⟨steps', mid', hs, hcourse', hstops, _⟩ := ended_beams_never_continued searchRoots_offersStart hends
  obtain ⟨rfl, rfl, rfl⟩ := hcourse.unique hcourse'
  obtain ⟨hstates, hasked⟩ := hstops 0 rfl rfl
  obtain ⟨asked, hrecorded, hwithout⟩ := hasked []
  obtain ⟨hfinal, _⟩ := List.forall₂_cons.mp (hstates _ (List.mem_append_right _ List.mem_cons_self))
  exact ⟨steps, mid, _, found, asked, hcourse, hdone, hfinal, hrecorded, hwithout⟩

end Service

end BatchInference
