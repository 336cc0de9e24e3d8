import Mathlib.Data.List.Nodup
import BatchInference.Beam.Hypotheses

/-!
What it means to keep the best sequences of a pool. The pool is ranked: best score first, and of equal scores the
one that stands earlier in the pool. There is only one ranking, and what is kept is the front of it.
-/

namespace BatchInference.BeamRanking

variable {r : BeamRanking} {width : Nat} {pool : List BeamSequence} {s : BeamSequence}
  {ranked ranked' : List (BeamSequence × Nat)}

theorem before_trans (a b c : BeamSequence) (hab : r.before a b = true) (hbc : r.before b c = true) :
    r.before a c = true :=
  Binary32.totalLe_trans hbc hab

theorem before_total (a b : BeamSequence) : (r.before a b || r.before b a) = true :=
  Binary32.totalLe_total (r.score b) (r.score a)

theorem mem_of_mem_keepBest (h : s ∈ r.keepBest width pool) : s ∈ pool :=
  (List.mergeSort_perm pool _).mem_iff.mp (List.mem_of_mem_take h)

theorem length_keepBest : (r.keepBest width pool).length = min width pool.length := by
  rw [keepBest, List.length_take, sorted, List.length_mergeSort]

/-- Where there is room for all sequences of a pool, all are kept. -/
theorem keepBest_perm (h : pool.length ≤ width) : (r.keepBest width pool).Perm pool := by
  have hall : (r.sorted pool).length ≤ width := by
    rwa [sorted, List.length_mergeSort]
  rw [keepBest, List.take_of_length_le hall]
  exact List.mergeSort_perm pool _

@[simp]
theorem keepBest_singleton : r.keepBest (width + 1) [s] = [s] := by
  simp [keepBest, sorted]

theorem pairwise_keepBest : (r.keepBest width pool).Pairwise fun a b => r.before a b = true :=
  (List.pairwise_mergeSort before_trans before_total pool).sublist (List.take_sublist width _)

/-- What tells all sequences of a pool apart tells those that are kept apart. -/
theorem nodup_keepBest {α : Type} {f : BeamSequence → α} (h : (pool.map f).Nodup) :
    ((r.keepBest width pool).map f).Nodup := by
  have hsorted : ((r.sorted pool).map f).Nodup := ((List.mergeSort_perm pool _).map f).nodup_iff.mpr h
  exact hsorted.sublist ((List.take_sublist width _).map f)

/-- A score that is the log-probability of a sequence over a power of its length. The length is one at least, and a
last token that ends sequences does not count towards it. -/
structure LengthNormalized (eos : Option TokenId) (penalty : Binary32) (score : BeamSequence → Binary32) : Prop where
  of_ends : ∀ s front stop, eos = some stop → s.tokens = front ++ [stop] →
    score s = s.cumLogprob / (Binary32.ofNat (max front.length 1)).pow penalty
  of_goes_on : ∀ s, (∀ stop, eos = some stop → s.tokens.getLast? ≠ some stop) →
    score s = s.cumLogprob / (Binary32.ofNat (max s.tokens.length 1)).pow penalty

theorem lengthNormalized_score (r : BeamRanking) : LengthNormalized r.eos r.lengthPenalty r.score where
  of_ends _ _ _ := score_of_ends
  of_goes_on _ := score_of_goes_on

/-- The score of the first sequence is not lower than that of the second, by the total order of all numbers. -/
def ScoresAtLeast (r : BeamRanking) (a b : BeamSequence) : Prop := (r.score b).totalLe (r.score a) = true

/-- The first of two sequences, each with its place in a pool, ranks before the second: its score is at least as
high, and if the scores are equal it stands earlier in the pool. -/
def Outranks (r : BeamRanking) (a b : BeamSequence × Nat) : Prop :=
  r.before a.1 b.1 = true ∧ (r.before b.1 a.1 = true → a.2 < b.2)

/-- The sequences of a pool with their places in it, best first. -/
structure Ranks (r : BeamRanking) (pool : List BeamSequence) (ranked : List (BeamSequence × Nat)) : Prop where
  perm : ranked.Perm pool.zipIdx
  best_first : ranked.Pairwise r.Outranks

private theorem nodup_places (h : ranked.Perm pool.zipIdx) : (ranked.map (·.2)).Nodup := by
  rw [(h.map _).nodup_iff, List.zipIdx_map_snd]
  exact List.nodup_range'

theorem ranks_mergeSort : r.Ranks pool (pool.zipIdx.mergeSort (List.zipIdxLE r.before)) := by
  have hperm := List.mergeSort_perm pool.zipIdx (List.zipIdxLE r.before)
  refine ⟨hperm, ?_⟩
  have hsorted := List.pairwise_mergeSort (List.zipIdxLE_trans r.before_trans) (List.zipIdxLE_total r.before_total)
    pool.zipIdx
  -- of two sequences with equal scores the sort looks at the places, which are never the same
  have hplaces := List.pairwise_map.mp (nodup_places hperm)
  refine hsorted.imp₂ ?_ hplaces
  intro a b hle hne
  unfold List.zipIdxLE at hle
  split at hle
  case isFalse => cases hle
  case isTrue hab =>
    refine ⟨hab, ?_⟩
    intro hba
    rw [if_pos hba, decide_eq_true_eq] at hle
    omega

theorem Outranks.asymm {a b : BeamSequence × Nat} (hab : r.Outranks a b) : ¬ r.Outranks b a := by
  intro hba
  have hfirst := hab.2 hba.1
  have hsecond := hba.2 hab.1
  omega

/-- A pool has one ranking only. -/
theorem Ranks.unique (h : r.Ranks pool ranked) (h' : r.Ranks pool ranked') : ranked = ranked' := by
  refine List.Perm.eq_of_pairwise ?_ h.best_first h'.best_first (h.perm.trans h'.perm.symm)
  intro a b _ _ hab hba
  exact absurd hba hab.asymm

/-- A sequence with its place in a pool that outranks all others of the pool. -/
structure First (r : BeamRanking) (pool : List BeamSequence) (p : BeamSequence × Nat) : Prop where
  mem : p ∈ pool.zipIdx
  outranks : ∀ q ∈ pool.zipIdx, q = p ∨ r.Outranks p q

theorem Ranks.first {p : BeamSequence × Nat} {rest : List (BeamSequence × Nat)} (h : r.Ranks pool (p :: rest)) :
    r.First pool p where
  mem := h.perm.mem_iff.mp List.mem_cons_self
  outranks := by
    intro q hq
    rcases List.mem_cons.mp (h.perm.mem_iff.mpr hq) with rfl | hrest
    · exact .inl rfl
    · exact .inr ((List.pairwise_cons.mp h.best_first).1 q hrest)

/-- What is kept of a pool is the front of its ranking. -/
theorem Ranks.keepBest_eq (h : r.Ranks pool ranked) : r.keepBest width pool = (ranked.take width).map (·.1) := by
  rw [h.unique ranks_mergeSort, List.map_take, List.mergeSort_zipIdx]
  rfl

/-- A pool of two is ranked as it stands unless the second scores higher. -/
theorem ranks_of_before {a b : BeamSequence} (hab : r.before a b = true) : r.Ranks [a, b] [(a, 0), (b, 1)] :=
  ⟨.refl _, List.pairwise_pair.mpr ⟨hab, fun _ => Nat.zero_lt_one⟩⟩

theorem ranks_of_not_before {a b : BeamSequence} (hab : ¬ r.before a b = true) : r.Ranks [a, b] [(b, 1), (a, 0)] := by
  have hba := ((Bool.or_eq_true _ _).mp (before_total (r := r) a b)).resolve_left hab
  exact ⟨.swap _ _ _, List.pairwise_pair.mpr ⟨hba, fun hback => absurd hback hab⟩⟩

/-- One sequence of a pool comes first, and where one is kept it is this one. -/
theorem exists_first (hpool : pool ≠ []) : ∃ p, r.First pool p ∧ r.keepBest 1 pool = [p.1] := by
  obtain ⟨ranked, hranks⟩ : ∃ ranked, r.Ranks pool ranked := ⟨_, ranks_mergeSort⟩
  cases ranked with
  | nil => exact absurd hranks.perm.symm.eq_nil (by simpa using hpool)
  | cons p rest => exact ⟨p, hranks.first, hranks.keepBest_eq⟩

end BatchInference.BeamRanking
