import BatchInference.Proofs.Beam.Lineage

/-!
The tokens a search generates after its prompt. An active beam has one of them for each step, and none is the stop
token; a completed beam came to the stop token in one of the steps, and has it once, at its end. Sequences of
different steps differ in their lengths, and those of one step in their tokens, so that no two sequences of a search
are the same.
-/

namespace BatchInference.Hypotheses

variable {rule : BeamRule} {h : Hypotheses} {results : List Generation} {rs : List (List Generation)}
  {root beam s : BeamSequence} {stopToken : Option TokenId} {token : TokenId} {logprob : Binary32}
  {position : Candidates} {n : Nat}

/-- The sequence is the root with so many tokens after it, and none of these is the stop token. -/
def Unended (stopToken : Option TokenId) (root : BeamSequence) (n : Nat) (s : BeamSequence) : Prop :=
  ∃ generated, generated.length = n ∧ s.tokens = root.tokens ++ generated ∧ ∀ token ∈ generated, stopToken ≠ some token

/-- The sequence is the root with so many tokens after it, of which the last, and no other, is the stop token. -/
def Ended (stopToken : Option TokenId) (root : BeamSequence) (n : Nat) (s : BeamSequence) : Prop :=
  ∃ generated stop, stopToken = some stop ∧ generated.length + 1 = n ∧ s.tokens = root.tokens ++ generated ++ [stop] ∧
    stop ∉ generated

theorem Unended.length_tokens (hs : Unended stopToken root n s) : s.tokens.length = root.tokens.length + n := by
  obtain ⟨generated, hlength, htokens, _⟩ := hs
  rw [htokens, List.length_append, hlength]

theorem Ended.length_tokens (hs : Ended stopToken root n s) : s.tokens.length = root.tokens.length + n := by
  obtain ⟨generated, stop, _, hlength, htokens, _⟩ := hs
  simp only [htokens, List.length_append, List.length_singleton]
  omega

theorem unended_root : Unended stopToken root 0 root := ⟨[], rfl, by simp, by simp⟩

theorem endsIn_extend : endsIn stopToken (beam.extend token logprob position) = true ↔ stopToken = some token := by
  cases stopToken with
  | none => simp [endsIn]
  | some stop =>
    simp only [endsIn, BeamSequence.extend, Option.isSome_some, Bool.true_and, List.getLast?_concat, beq_iff_eq,
      Option.some.injEq]
    exact eq_comm

theorem Unended.extend (hbeam : Unended stopToken root n beam) (htoken : stopToken ≠ some token) :
    Unended stopToken root (n + 1) (beam.extend token logprob position) := by
  obtain ⟨generated, hlength, htokens, hnone⟩ := hbeam
  refine ⟨generated ++ [token], ?_, ?_, ?_⟩
  · simp [hlength]
  · simp [BeamSequence.extend, htokens]
  · intro t ht
    rcases List.mem_append.mp ht with hold | hlast
    · exact hnone t hold
    · rw [List.mem_singleton.mp hlast]
      exact htoken

theorem Unended.extend_stop (hbeam : Unended stopToken root n beam) (htoken : stopToken = some token) :
    Ended stopToken root (n + 1) (beam.extend token logprob position) := by
  obtain ⟨generated, hlength, htokens, hnone⟩ := hbeam
  refine ⟨generated, token, htoken, ?_, ?_, ?_⟩
  · rw [hlength]
  · simp [BeamSequence.extend, htokens]
  · intro hmem
    exact hnone token hmem htoken

/-- What a step makes of beams that have not ended ends with the stop token now or goes on without it. -/
theorem generated_of_mem_expansions (hactive : ∀ beam ∈ h.active, Unended stopToken root n beam)
    (hs : s ∈ h.expansions results) :
    (endsIn stopToken s = true → Ended stopToken root (n + 1) s) ∧
      (endsIn stopToken s = false → Unended stopToken root (n + 1) s) := by
  obtain ⟨⟨beam, result⟩, hpair, hs⟩ := List.mem_flatMap.mp hs
  obtain ⟨position, _, e, _, rfl⟩ := mem_extensions.mp hs
  have hbeam := hactive beam (List.of_mem_zip hpair).1
  constructor
  · intro hends
    exact hbeam.extend_stop (endsIn_extend.mp hends)
  · intro hgoes
    apply hbeam.extend
    intro htoken
    rw [endsIn_extend.mpr htoken] at hgoes
    cases hgoes

/-- After any steps, active beams have a token for each step and no stop token among them, and completed ones came
to the stop token in one of the steps. -/
theorem run_generated (rule : BeamRule) (root : BeamSequence) (rs : List (List Generation)) :
    (∀ s ∈ (run rule root rs).active, Unended rule.stopToken root rs.length s) ∧
      ∀ s ∈ (run rule root rs).completed, ∃ n ≤ rs.length, Ended rule.stopToken root n s := by
  induction rs using List.reverseRecOn with
  | nil =>
    constructor
    · intro s hs
      rw [List.mem_singleton.mp hs]
      exact unended_root
    · exact nofun
  | append_singleton rs results ih =>
    obtain ⟨hactive, hcompleted⟩ := ih
    rw [run_snoc, List.length_append, List.length_singleton]
    constructor
    · intro s hs
      obtain ⟨hmem, hgoes⟩ := List.mem_filter.mp (BeamRanking.mem_of_mem_keepBest hs)
      exact (generated_of_mem_expansions hactive hmem).2 (by simpa using hgoes)
    · intro s hs
      rcases List.mem_append.mp hs with hold | hnew
      · obtain ⟨n, hn, hended⟩ := hcompleted s hold
        exact ⟨n, by omega, hended⟩
      · obtain ⟨hmem, hends⟩ := List.mem_filter.mp hnew
        exact ⟨rs.length + 1, Nat.le_refl _, (generated_of_mem_expansions hactive hmem).1 hends⟩

/-- What is kept of a step and what it completed are told apart by their tokens. -/
theorem nodup_new (hnodup : (h.active.map (·.tokens)).Nodup) :
    (((h.expansions results).filter (endsIn rule.stopToken) ++ (h.advance rule results).active).map
      (·.tokens)).Nodup := by
  have hall : ((h.expansions results).map (·.tokens)).Nodup := nodup_expansions hnodup
  rw [List.map_append, List.nodup_append]
  refine ⟨hall.sublist (List.filter_sublist.map _), nodup_advance hnodup, ?_⟩
  intro x hx y hy heq
  obtain ⟨s, hs, rfl⟩ := List.mem_map.mp hx
  obtain ⟨t, ht, rfl⟩ := List.mem_map.mp hy
  obtain ⟨hmem, hends⟩ := List.mem_filter.mp hs
  obtain ⟨hmem', hgoes⟩ := List.mem_filter.mp (BeamRanking.mem_of_mem_keepBest ht)
  have hsame : s = t := List.inj_on_of_nodup_map hall hmem hmem' heq
  rw [← hsame, hends] at hgoes
  cases hgoes

theorem nodup_pool_run (rule : BeamRule) (root : BeamSequence) (rs : List (List Generation)) :
    ((run rule root rs).pool.map (·.tokens)).Nodup := by
  induction rs using List.reverseRecOn with
  | nil => exact List.nodup_singleton root.tokens
  | append_singleton rs results ih =>
    -- what was completed before this step is shorter than anything the step brings forth
    have hold : ((run rule root rs).completed.map (·.tokens)).Nodup :=
      ih.sublist ((List.sublist_append_left _ _).map _)
    have hnew : ((((run rule root rs).expansions results).filter (endsIn rule.stopToken) ++
        ((run rule root rs).advance rule results).active).map (·.tokens)).Nodup := nodup_new (nodup_run rule root rs)
    obtain ⟨_, hcompleted⟩ := run_generated rule root rs
    obtain ⟨hactive, _⟩ := run_generated rule root (rs ++ [results])
    rw [run_snoc] at hactive ⊢
    rw [pool, advance, List.append_assoc, List.map_append, List.nodup_append]
    refine ⟨hold, hnew, ?_⟩
    intro x hx y hy heq
    obtain ⟨s, hs, rfl⟩ := List.mem_map.mp hx
    obtain ⟨t, ht, rfl⟩ := List.mem_map.mp hy
    obtain ⟨n, hn, hended⟩ := hcompleted s hs
    have hshort := hended.length_tokens
    have hlong : t.tokens.length = root.tokens.length + (rs.length + 1) := by
      rcases List.mem_append.mp ht with hdone | hbusy
      · obtain ⟨hmem, hends⟩ := List.mem_filter.mp hdone
        exact ((generated_of_mem_expansions (run_generated rule root rs).1 hmem).1 hends).length_tokens
      · have hlength := (hactive t hbusy).length_tokens
        rwa [List.length_append, List.length_singleton] at hlength
    have hlengths := congrArg List.length heq
    omega

theorem nodup_finish {tokenizer : Tokenizer} (hpool : (h.pool.map (·.tokens)).Nodup) :
    ((h.finish rule tokenizer).map (·.tokens)).Nodup := by
  rw [finish, List.map_map]
  exact BeamRanking.nodup_keepBest hpool

/-- However the steps of a search turn out, no two of its sequences, active or completed, have the same tokens, and
neither have two of those it returns. -/
theorem beams_pairwise_distinct (rule : BeamRule) (root : BeamSequence) (rs : List (List Generation))
    (tokenizer : Tokenizer) :
    ((run rule root rs).pool.map (·.tokens)).Nodup ∧
      (((run rule root rs).finish rule tokenizer).map (·.tokens)).Nodup := by
  have hpool := nodup_pool_run rule root rs
  exact ⟨hpool, nodup_finish hpool⟩

end BatchInference.Hypotheses
