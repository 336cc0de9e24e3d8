import BatchInference.Proofs.Beam.Alone
import BatchInference.Proofs.Beam.Lineage
import BatchInference.Proofs.Beam.Pairing
import BatchInference.Proofs.Scripted.Shown

/-!
What a search returns. Every beam that is offered the stop token completes a sequence, which stays in the pool of
its prompt until the end, whatever becomes of the other beams; the pool is then ranked as a whole, and its front is
returned. What is offered is read here off the results themselves, and a step is told by it.
-/

namespace BatchInference

/-- What a result offers to its beam: the candidates at the first position of its first completion. -/
def Generation.offer? (result : Generation) : Option Candidates :=
  match result.outputs with
  | { logprobs := some (position :: _), .. } :: _ => some position
  | _ => none

theorem Generation.position?_eq_offer? (result : Generation) : Hypotheses.position? result = result.offer? := by
  have hoffer : ∀ position, result.offer? = some position ↔ ∃ first others later,
      result.outputs = first :: others ∧ first.logprobs = some (position :: later) := by
    intro position
    unfold offer?
    rcases result.outputs with _ | ⟨⟨_, _, _, _, _ | _ | ⟨_, _⟩, _⟩, _⟩ <;> simp
  exact Option.ext fun position => Hypotheses.position?_eq_some_iff.trans (hoffer position).symm

/-- A beam with one of the candidates of a position after it. -/
def BeamSequence.followedBy (beam : BeamSequence) (position : Candidates) (e : TokenId × Logprob) : BeamSequence where
  tokens := beam.tokens ++ [e.1]
  logprobs := beam.logprobs ++ [position]
  lora := beam.lora
  cumLogprob := beam.cumLogprob + e.2.logprob
  companions := beam.companions

namespace Hypotheses

variable {rule : BeamRule} {h : Hypotheses} {hs : List Hypotheses} {results : List Generation}
  {beam : BeamSequence} {result : Generation} {stopToken : Option TokenId}

/-- A beam with the stop token after it, if its result offers that token. -/
def stopCandidate? (stopToken : Option TokenId) (beam : BeamSequence) (result : Generation) :
    Option BeamSequence := do
  let stop ← stopToken
  let position ← result.offer?
  let reported ← position.get? stop
  return beam.followedBy position (stop, reported)

/-- The stop token candidates of all active beams, in the order of the beams. -/
def stopCandidates (stopToken : Option TokenId) (h : Hypotheses) (results : List Generation) : List BeamSequence :=
  (h.active.zip results).filterMap fun p => stopCandidate? stopToken p.1 p.2

/-- A beam with each of the other tokens that its result offers after it, in the order of the tokens. -/
def otherCandidates (stopToken : Option TokenId) (beam : BeamSequence) (result : Generation) : List BeamSequence :=
  match result.offer? with
  | none => []
  | some position => (position.entries.filter fun e => stopToken != some e.1).map (beam.followedBy position)

/-- The candidates that go on, those of all active beams. -/
def goingCandidates (stopToken : Option TokenId) (h : Hypotheses) (results : List Generation) : List BeamSequence :=
  (h.active.zip results).flatMap fun p => otherCandidates stopToken p.1 p.2

/-- What a step makes of the search for one prompt, told by what its results offer. The stop token candidates are
completed, after what has been before; the candidates that go on are ranked, and the front of the ranking is active
next. -/
structure Advances (rule : BeamRule) (h : Hypotheses) (results : List Generation) (next : Hypotheses) : Prop where
  completed_eq : next.completed = h.completed ++ h.stopCandidates rule.stopToken results
  active_eq : ∃ ranked, rule.ranking.Ranks (h.goingCandidates rule.stopToken results) ranked ∧
    next.active = (ranked.take rule.width).map (·.1)

theorem endsIn_followedBy {position : Candidates} {e : TokenId × Logprob} :
    endsIn stopToken (beam.followedBy position e) = (stopToken == some e.1) := by
  cases stopToken with
  | none => rfl
  | some stop => simp [endsIn, BeamSequence.followedBy, Bool.beq_comm]

theorem filter_extensions (keep : BeamSequence → Bool) : (extensions beam result).filter keep =
    match result.offer? with
    | none => []
    | some position =>
      (position.entries.filter (keep ∘ beam.followedBy position)).map (beam.followedBy position) := by
  rw [← Generation.position?_eq_offer?, extensions]
  cases position? result with
  | none => rfl
  | some position => exact List.filter_map

theorem filter_endsIn_extensions :
    (extensions beam result).filter (endsIn stopToken) = (stopCandidate? stopToken beam result).toList := by
  rw [filter_extensions]
  unfold stopCandidate?
  cases result.offer? with
  | none => cases stopToken <;> rfl
  | some position =>
    cases stopToken with
    | none => exact List.map_eq_nil_iff.mpr (List.filter_eq_nil_iff.mpr fun _ _ => Bool.false_ne_true)
    | some stop =>
      have hstop : endsIn (some stop) ∘ beam.followedBy position = fun e => e.1 == stop := by
        funext e
        simp [endsIn_followedBy, Bool.beq_comm]
      dsimp only
      rw [hstop, Candidates.filter_token]
      cases hreported : position.get? stop with
      | none => simp [hreported]
      | some reported => simp [hreported]

theorem filter_not_endsIn_extensions :
    (extensions beam result).filter (!endsIn stopToken ·) = otherCandidates stopToken beam result := by
  have hgoes : ∀ position, (fun s => !endsIn stopToken s) ∘ beam.followedBy position =
      fun e => stopToken != some e.1 :=
    fun _ => funext fun _ => congrArg (!·) endsIn_followedBy
  simp only [filter_extensions, hgoes, otherCandidates]

theorem filter_endsIn_expansions :
    (h.expansions results).filter (endsIn stopToken) = h.stopCandidates stopToken results := by
  simp only [expansions, stopCandidates, List.filter_flatMap, filter_endsIn_extensions,
    List.filterMap_eq_flatMap_toList]

theorem filter_not_endsIn_expansions :
    (h.expansions results).filter (!endsIn stopToken ·) = h.goingCandidates stopToken results := by
  simp only [expansions, goingCandidates, List.filter_flatMap, filter_not_endsIn_extensions]

theorem advances_advance : h.Advances rule results (h.advance rule results) where
  completed_eq := by rw [advance, filter_endsIn_expansions]
  active_eq := by
    have hranks : rule.ranking.Ranks (h.goingCandidates rule.stopToken results) _ := BeamRanking.ranks_mergeSort
    refine ⟨_, hranks, ?_⟩
    rw [advance, filter_not_endsIn_expansions, hranks.keepBest_eq]

/-- The results of prompt number `i` among all results of a step. -/
def share (hs : List Hypotheses) (results : List Generation) (i : Nat) (h : Hypotheses) : List Generation :=
  (results.drop ((hs.take i).flatMap (·.active)).length).take h.active.length

/-- In a step of several searches each of them makes a step with its share of the results. -/
theorem getElem?_advanceAll (i : Nat) :
    (advanceAll rule hs results)[i]? = hs[i]?.map fun h => h.advance rule (share hs results i h) := by
  induction hs generalizing results i with
  | nil => rfl
  | cons g rest ih =>
    cases i with
    | zero => simp [advanceAll, share]
    | succ i =>
      simp only [advanceAll, List.getElem?_cons_succ, ih, share, List.take_succ_cons, List.flatMap_cons,
        List.length_append, List.drop_drop]

end Hypotheses

/-- The stop token candidates of prompt number `i` in a step. -/
def SearchStep.stopped {σ : Type} (stopToken : Option TokenId) (i : Nat) (s : SearchStep σ) : List BeamSequence :=
  match s.hypotheses[i]? with
  | none => []
  | some h => h.stopCandidates stopToken (Hypotheses.share s.hypotheses s.results i h)

/-- The search for prompt number `i` in completed steps. Each step finds it where the one before has left it, and
advances it by its share of the results. -/
inductive Advancing {σ : Type} (rule : BeamRule) (i : Nat) : List (SearchStep σ) → Hypotheses → Hypotheses → Prop
  | done {h : Hypotheses} : Advancing rule i [] h h
  | step {s : SearchStep σ} {steps : List (SearchStep σ)} {h next final : Hypotheses}
      (hfound : s.hypotheses[i]? = some h)
      (hadvances : h.Advances rule (Hypotheses.share s.hypotheses s.results i h) next)
      (rest : Advancing rule i steps next final) : Advancing rule i (s :: steps) h final

namespace Advancing

variable {σ : Type} {rule : BeamRule} {i : Nat} {steps : List (SearchStep σ)} {first final : Hypotheses}

/-- What is completed at the end is what was at the start and then, step by step, every stop token candidate. -/
theorem completed_eq (h : Advancing rule i steps first final) :
    final.completed = first.completed ++ steps.flatMap (·.stopped rule.stopToken i) := by
  induction h with
  | done => simp
  | step hfound hadvances _ ih =>
    rw [ih, hadvances.completed_eq, List.flatMap_cons, List.append_assoc]
    simp only [SearchStep.stopped, hfound]

/-- The active beams stand best first after every step. -/
theorem best_first (h : Advancing rule i steps first final)
    (hfirst : first.active.Pairwise rule.ranking.ScoresAtLeast) : final.active.Pairwise rule.ranking.ScoresAtLeast := by
  induction h with
  | done => exact hfirst
  | step _ hadvances _ ih =>
    apply ih
    obtain ⟨ranked, hranks, hactive⟩ := hadvances.active_eq
    rw [hactive, List.pairwise_map]
    exact (hranks.best_first.sublist (List.take_sublist _ _)).imp fun houtranks => houtranks.1

end Advancing

namespace Service

variable {σ τ : Type} {svc : Service σ} {w : World σ τ} {core after : Core σ} {ticks : Nat} {params : BeamParams}
  {prompts : List Prompt} {lora : Broadcast (Option LoraAdapter)} {sink : Option (ProgressSink τ)}
  {roots hs hs' : List Hypotheses} {steps : List (SearchStep σ)} {final : Hypotheses}
  {found : List (List BeamSequence)}

/-- In the steps of a search for several prompts, that for each of them is advanced by its share of the results. -/
theorem Steps.advancing (h : svc.Steps ticks params steps core hs after hs') {i : Nat} (hfinal : hs'[i]? = some final) :
    ∃ first, hs[i]? = some first ∧ Advancing (svc.beamRule params) i steps first final := by
  induction h with
  | none => exact ⟨final, hfinal, .done⟩
  | cons _ _ _ ih =>
    obtain ⟨next, hnext, hrest⟩ := ih hfinal
    rw [Hypotheses.getElem?_advanceAll] at hnext
    obtain ⟨first, hfirst, rfl⟩ := Option.map_eq_some_iff.mp hnext
    exact ⟨first, hfirst, .step hfirst Hypotheses.advances_advance hrest⟩

theorem Steps.length_eq (h : svc.Steps ticks params steps core hs after hs') : hs'.length = hs.length := by
  induction h with
  | none => rfl
  | cons _ _ _ ih => rw [ih, Hypotheses.length_advanceAll]

/-- A search starts with one beam for each prompt and nothing completed. -/
theorem exists_of_searchRoots (h : svc.searchRoots prompts params lora = .ok roots) :
    roots.length = prompts.length ∧ ∀ r ∈ roots, ∃ root, r = ⟨[root], []⟩ := by
  obtain ⟨_, _, loras, starts, hloras, hstarts, rfl⟩ := searchRoots_eq_ok.mp h
  constructor
  · rw [List.length_map, ← hstarts.length_eq, List.length_zip, Broadcast.length_resolve hloras,
      Nat.min_self]
  · intro r hr
    obtain ⟨root, _, rfl⟩ := List.mem_map.mp hr
    exact ⟨root, rfl⟩

/-- What is returned for a prompt, told by the pool of its search at the end. The pool holds the sequences that were
completed, in the order in which they were, and after them the active beams, best first; what is kept is the front of
the ranking of the pool by the scores, with the texts filled in. -/
structure Returns (svc : Service σ) (params : BeamParams) (stopped : List BeamSequence) (final : Hypotheses)
    (ranked : List (BeamSequence × Nat)) (kept : List BeamSequence) : Prop where
  pool_eq : final.pool = stopped ++ final.active
  active_best_first : final.active.Pairwise (svc.beamRule params).ranking.ScoresAtLeast
  scored : BeamRanking.LengthNormalized svc.tokenizer.eos params.lengthPenalty (svc.beamRule params).ranking.score
  ranks : (svc.beamRule params).ranking.Ranks final.pool ranked
  kept_eq : kept = (ranked.take params.beamWidth).map fun p =>
    { p.1 with text := some (svc.tokenizer.decode p.1.tokens) }
  length_eq : kept.length = min params.beamWidth final.pool.length
  kept_best_first : kept.Pairwise (svc.beamRule params).ranking.ScoresAtLeast
  omitted : ∀ p ∈ ranked.take params.beamWidth, ∀ q ∈ ranked.drop params.beamWidth,
    (svc.beamRule params).ranking.ScoresAtLeast p.1 q.1 ∧
      ((svc.beamRule params).ranking.ScoresAtLeast q.1 p.1 → p.2 < q.2)

theorem returns_finish {stopped : List BeamSequence} (hpool : final.pool = stopped ++ final.active)
    (hactive : final.active.Pairwise (svc.beamRule params).ranking.ScoresAtLeast) :
    ∃ ranked, svc.Returns params stopped final ranked (final.finish (svc.beamRule params) svc.tokenizer) := by
  have hranks : (svc.beamRule params).ranking.Ranks final.pool _ := BeamRanking.ranks_mergeSort
  refine ⟨_, hpool, hactive, (svc.beamRule params).ranking.lengthNormalized_score, hranks, ?_, ?_, ?_, ?_⟩
  · rw [Hypotheses.finish, hranks.keepBest_eq, List.map_map]
    rfl
  · rw [Hypotheses.finish, List.length_map, BeamRanking.length_keepBest]
    rfl
  · exact List.pairwise_map.mpr BeamRanking.pairwise_keepBest
  · have hsplit := hranks.best_first
    rw [← List.take_append_drop params.beamWidth (final.pool.zipIdx.mergeSort _)] at hsplit
    exact (List.pairwise_append.mp hsplit).2.2

/-- However a search that gives an answer went, each of its steps completed the candidates that were offered with the
stop token, if that ends a beam, and went on with the best of the others. No sequence that was completed in one of the
steps is lost, and the best sequences of each prompt are returned: one that is left out never scores higher than one
that is returned, and where it scores the same it stands later in the pool. -/
theorem search_returns_best (h : (svc.beamSearch ticks prompts params lora sink).Ends w (.ok found) after) :
    ∃ roots steps left hs, svc.searchRoots prompts params lora = .ok roots ∧
      steps.length + left = params.maxTokens ∧ svc.Steps ticks params steps w.core roots after hs ∧
      svc.Stops ticks params left after hs (.ok hs) after ∧
      hs.length = prompts.length ∧ found.length = prompts.length ∧
      ∀ i final kept, hs[i]? = some final → found[i]? = some kept → ∃ root ranked, roots[i]? = some ⟨[root], []⟩ ∧
        Advancing (svc.beamRule params) i steps ⟨[root], []⟩ final ∧
        svc.Returns params (steps.flatMap (·.stopped (if params.ignoreEos then none else svc.tokenizer.eos) i)) final
          ranked kept := by
  cases hroots : svc.searchRoots prompts params lora with
  | error err => cases (h.unique (beamSearch_invalid hroots rfl)).1
  | ok roots =>
    obtain ⟨steps, left, mid, hs, result, hleft, hsteps, hstops, hfound⟩ := (beamSearch_ends_iff hroots rfl).mp h
    obtain ⟨rfl, rfl⟩ : result = .ok hs ∧ after = mid := by
      cases hstops with
      | outOfSteps => exact ⟨rfl, rfl⟩
      | outOfBeams => exact ⟨rfl, rfl⟩
      | failed => cases hfound
    cases hfound
    obtain ⟨hprompts, hstarts⟩ := exists_of_searchRoots hroots
    have hlength : hs.length = prompts.length := hsteps.length_eq.trans hprompts
    refine ⟨roots, steps, left, hs, rfl, hleft, hsteps, hstops, hlength, ?_, ?_⟩
    · rw [List.length_map, hlength]
    · intro i final kept hfinal hkept
      rw [List.getElem?_map, hfinal] at hkept
      cases hkept
      obtain ⟨first, hfirst, hadvancing⟩ := hsteps.advancing hfinal
      obtain ⟨root, rfl⟩ := hstarts first (List.mem_of_getElem? hfirst)
      have hpool : final.pool = steps.flatMap (·.stopped (svc.beamRule params).stopToken i) ++ final.active := by
        rw [Hypotheses.pool, hadvancing.completed_eq, List.nil_append]
      obtain ⟨ranked, hreturns⟩ := returns_finish hpool (hadvancing.best_first (List.pairwise_singleton _ root))
      exact ⟨root, ranked, hfirst, hadvancing, hreturns⟩

/-- After the token 10 comes the one that ends a beam, or the token 11. -/
def stoppingAnswers (stopping going : Binary32) : Scripted.Answers where
  offsets := [(-10, stopping), (1, going)]

def stoppingService (stopping going : Binary32) : Service Scripted.State :=
  ⟨({ answers := stoppingAnswers stopping going, alphabet := {} } : Scripted.Plan).engine,
    Scripted.Alphabet.tokenizer {}, none⟩

def tenStart : List Hypotheses := [Hypotheses.start Hypotheses.tenRoot]

/-- What such an engine offers to the beam at the token 10. -/
def offeredAfterTen (stopping going : Binary32) : Candidates :=
  Scripted.Answers.reportedCandidates 2 [(0, stopping), (11, going)]

/-- The beam with either token, the one that ends it first. -/
def poolAfterTen (stopping going : Binary32) : List BeamSequence :=
  [Hypotheses.tenRoot.followedBy (offeredAfterTen stopping going) (0, ⟨stopping, some 1, none⟩),
    Hypotheses.tenRoot.followedBy (offeredAfterTen stopping going) (11, ⟨going, some 2, none⟩)]

theorem shown_stoppingAnswers {stopping going : Binary32} (hbest : going.totalLe stopping = true) :
    (stoppingAnswers stopping going).shown {} 2 [10] = some (offeredAfterTen stopping going) := by
  have haborts : (stoppingAnswers stopping going).aborts [10] = false := by
    simp [Scripted.Answers.aborts, stoppingAnswers]
  have hsorted : [((0 : TokenId), stopping), (11, going)].Pairwise fun x y => y.2.totalLe x.2 = true :=
    List.pairwise_pair.mpr hbest
  have hranked : (stoppingAnswers stopping going).ranked {} [10] = [(0, stopping), (11, going)] :=
    List.mergeSort_of_pairwise hsorted
  rw [Scripted.Answers.shown, haborts, hranked]
  rfl

/-- One step completes the one sequence and goes on with the other. -/
theorem exists_step_stoppingService {stopping going : Binary32} (hbest : going.totalLe stopping = true) :
    ∃ step final after,
      (stoppingService stopping going).Steps 1 oneToken [step] lastIdWorld.core tenStart after [final] ∧
      final.pool = poolAfterTen stopping going := by
  have hposition : Hypotheses.position? ((stoppingAnswers stopping going).generation {}
      ((beamRequest oneToken Hypotheses.tenRoot).withId lastIdWorld.counter.peek) oneToken.samplingParams true) = _ :=
    Scripted.Answers.position?_beamRequest rfl true
  obtain ⟨g, hfinished, hoffer⟩ : ∃ g,
      (SearchStep.work ⟨lastIdWorld.core, tenStart, []⟩ (stoppingService stopping going) 1 oneToken).finished =
        [.generation g] ∧ Hypotheses.position? g = some (offeredAfterTen stopping going) :=
    ⟨_, rfl, hposition.trans (shown_stoppingAnswers hbest)⟩
  have hsorted : Update.sorted [.generation g] = [g].map .generation := List.mergeSort_singleton _
  have hstep : (stoppingService stopping going).stepEnd 1 oneToken (tenStart.flatMap (·.active)) lastIdWorld.core =
      (.ok [g], _) :=
    stepEnd_eq_ok (s := ⟨lastIdWorld.core, tenStart, [g]⟩) rfl rfl rfl (hfinished ▸ hsorted) rfl
  have hnew : (Hypotheses.start Hypotheses.tenRoot).expansions [g] = poolAfterTen stopping going := by
    simp only [Hypotheses.expansions, Hypotheses.extensions, Hypotheses.start, List.zip_cons_cons, List.zip_nil_left,
      List.flatMap_singleton, hoffer]
    rfl
  have hadvance : Hypotheses.advanceAll ((stoppingService stopping going).beamRule oneToken) tenStart [g] =
      [(Hypotheses.start Hypotheses.tenRoot).advance Hypotheses.narrowRule [g]] := rfl
  have hsteps : (stoppingService stopping going).Steps 1 oneToken _ lastIdWorld.core tenStart _ _ :=
    .cons (List.cons_ne_nil _ _) hstep .none
  rw [hadvance, Hypotheses.advance_narrowRule hnew rfl rfl] at hsteps
  exact ⟨_, _, _, hsteps, rfl⟩

/-- One step from the token 10 ends with this pool, and the front of it is returned. A sequence is told by its tokens
and its log-probability. -/
def ReturnsAfterTen (svc : Service Scripted.State) (pool kept : List (List TokenId × Binary32)) : Prop :=
  ∃ best after steps final ranked,
    (svc.beamSearch 1 [.ofTokens [10]] oneToken (.one none) none).Ends lastIdWorld (.ok [best]) after ∧
    svc.Steps 1 oneToken steps lastIdWorld.core tenStart after [final] ∧
    svc.Returns oneToken (steps.flatMap (·.stopped svc.tokenizer.eos 0)) final ranked best ∧
    final.pool.map (fun s => (s.tokens, s.cumLogprob)) = pool ∧
    best.map (fun s => (s.tokens, s.cumLogprob)) = kept

/-- Of two sequences with equal scores the completed one is returned. Where it has the higher log-probability, but the
other is longer by one token that counts and has the higher score, the other one is. -/
theorem stoppingService_returns :
    (stoppingService .zero .zero).ReturnsAfterTen [([10, 0], .zero), ([10, 11], .zero)] [([10, 0], .zero)] ∧
    (stoppingService ⟨0xbfc00000⟩ ⟨0xc0000000⟩).ReturnsAfterTen
      [([10, 0], ⟨0xbfc00000⟩), ([10, 11], ⟨0xc0000000⟩)] [([10, 11], ⟨0xc0000000⟩)] := by
  have hreturns : ∀ stopping going first second, going.totalLe stopping = true →
      Hypotheses.narrowRule.ranking.Ranks (poolAfterTen stopping going) [first, second] →
      (stoppingService stopping going).ReturnsAfterTen
        ((poolAfterTen stopping going).map fun s => (s.tokens, s.cumLogprob))
        [(first.1.tokens, first.1.cumLogprob)] := by
    intro stopping going first second hbest hranks
    obtain ⟨step, final, after, hsteps, hpool⟩ := exists_step_stoppingService hbest
    have hends : ((stoppingService stopping going).beamSearch 1 [.ofTokens [10]] oneToken (.one none) none).Ends
        lastIdWorld (.ok [_]) after :=
      (beamSearch_ends_iff rfl rfl).mpr ⟨_, 0, _, _, .ok _, rfl, hsteps, .outOfSteps rfl, rfl⟩
    obtain ⟨_, steps, left, hs, hroots, hlength, hsteps', hstops, _, _, hall⟩ := search_returns_best hends
    cases hroots
    obtain ⟨rfl, _, rfl⟩ := hsteps.unique (.outOfSteps rfl) hsteps' hstops hlength.symm
    obtain ⟨_, ranked, _, _, hfront⟩ := hall 0 final _ rfl rfl
    have hranked : ranked = [first, second] := hfront.ranks.unique (hpool ▸ hranks)
    refine ⟨_, after, _, final, ranked, hends, hsteps', hfront, by rw [hpool], ?_⟩
    rw [hfront.kept_eq, hranked]
    rfl
  constructor
  · exact hreturns .zero .zero _ _ rfl (BeamRanking.ranks_of_before (by decide))
  · exact hreturns ⟨0xbfc00000⟩ ⟨0xc0000000⟩ _ _ rfl (BeamRanking.ranks_of_not_before (by decide))

end Service

end BatchInference
