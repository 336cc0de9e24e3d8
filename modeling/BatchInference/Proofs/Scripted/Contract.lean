import Mathlib.Algebra.Order.BigOperators.Group.List
import Mathlib.Algebra.Order.Group.Nat
import BatchInference.Scripted.Engine
import BatchInference.Proofs.Engine.Contract

/-!
What a rehearsed engine promises. One that loses and doubles nothing keeps what it accepts, also where it refuses
requests or fails on steps; one that moreover refuses nothing and fails on no step is reliable, however many ticks
its requests take.
-/

namespace BatchInference.Scripted

namespace Answers

variable (a : Answers) (alphabet : Alphabet) (r : Request) (otherKind finished : Bool)

theorem id_update : (a.update alphabet r otherKind finished).id = r.id := by
  unfold update
  split <;> rfl

theorem finished_update : (a.update alphabet r otherKind finished).finished = finished := by
  unfold update
  split <;> rfl

theorem sort_update : (a.update alphabet r false finished).sort = r.params.sort := by
  cases hparams : r.params <;> simp only [update, hparams] <;> rfl

end Answers

namespace Plan

variable {plan : Plan} {answers : Request → Update → Prop} {s s' : State}

/-- The engine works on its requests, and reports each of them finished once. -/
structure Faithful (plan : Plan) : Prop where
  lost : plan.lost = []
  doubled : plan.doubled = []
  scripted : plan.scripted = false

/-- The requests at work, none of which is due already. -/
def Owes (s : State) (rs : List Request) : Prop :=
  rs.Perm (s.jobs.map (·.request)) ∧ ∀ job ∈ s.jobs, 0 < job.ticksLeft

def last (plan : Plan) (r : Request) : Update :=
  plan.answers.update plan.alphabet r (plan.mistaken.contains r.id) true

def ticked (job : Job) : Job := { job with ticksLeft := job.ticksLeft - 1 }

/-- What comes of the jobs of a step, in the order in which the engine reports it. -/
def reported {α : Type} (plan : Plan) (l : List α) : List α := if plan.forward then l else l.reverse

theorem reported_perm {α : Type} (plan : Plan) (l : List α) : (plan.reported l).Perm l := by
  unfold reported
  split
  · exact .refl l
  · exact List.reverse_perm l

theorem map_reported {α β : Type} (plan : Plan) (f : α → β) (l : List α) :
    (plan.reported l).map f = plan.reported (l.map f) := by
  unfold reported
  split
  · rfl
  · exact List.map_reverse

theorem filter_reported {α : Type} (plan : Plan) (p : α → Bool) (l : List α) :
    (plan.reported l).filter p = plan.reported (l.filter p) := by
  unfold reported
  split
  · rfl
  · exact List.filter_reverse

/-- Of the updates on a number of jobs, those that are finished are the last ones of the jobs that are due. -/
theorem finished_updatesOf (h : plan.Faithful) (jobs : List Job) :
    (jobs.flatMap plan.updatesOf).filter (·.finished) =
      (jobs.filter (·.ticksLeft = 0)).map fun job => plan.last job.request := by
  induction jobs with
  | nil => rfl
  | cons job rest ih =>
    have hone : plan.updatesOf job =
        [plan.answers.update plan.alphabet job.request (plan.mistaken.contains job.request.id)
          (decide (job.ticksLeft = 0))] := by
      simp [updatesOf, h.lost, h.doubled]
    rw [List.flatMap_cons, List.filter_append, ih, hone]
    by_cases hdue : job.ticksLeft = 0
    · rw [List.filter_cons_of_pos (by simp [Answers.finished_update, hdue]),
        List.filter_cons_of_pos (by simpa using hdue)]
      simp [last, hdue]
    · rw [List.filter_cons_of_neg (by simp [Answers.finished_update, hdue]),
        List.filter_cons_of_neg (by simpa using hdue)]
      rfl

/-- What a step that does not fail reports, and the jobs it leaves, which are those that are not due. -/
theorem step_eq_ok (hscripted : plan.scripted = false) {us : List Update} (hstep : plan.step s = (.ok us, s')) :
    us = plan.reported ((s.jobs.map ticked).flatMap plan.updatesOf) ∧
      s'.jobs = (s.jobs.map ticked).filter (0 < ·.ticksLeft) := by
  unfold step at hstep
  dsimp only at hstep
  split at hstep
  · cases hstep
  · simp only [hscripted, Bool.false_eq_true, if_false, work, Prod.mk.injEq, Except.ok.injEq] at hstep
    obtain ⟨rfl, rfl⟩ := hstep
    exact ⟨rfl, rfl⟩

theorem exists_step_ok (hscripted : plan.scripted = false) (hfailing : plan.failing = []) (s : State) :
    ∃ us, (plan.engine.step s).1 = .ok us := by
  change ∃ us, (plan.step s).1 = _
  simp [step, hfailing, hscripted]

theorem idle_iff_jobs (hscripted : plan.scripted = false) : plan.engine.hasUnfinished s = false ↔ s.jobs = [] := by
  change decide (0 < plan.numUnfinished s) = false ↔ _
  rw [decide_eq_false_iff_not, numUnfinished, if_neg (by simp [hscripted]), List.length_pos_iff, ne_eq,
    Classical.not_not]

theorem step_jobs (h : plan.Faithful) {us : List Update} (hstep : plan.step s = (.ok us, s')) :
    us.filter (·.finished) =
      plan.reported (((s.jobs.map ticked).filter (·.ticksLeft = 0)).map fun job => plan.last job.request) ∧
    s'.jobs = (s.jobs.map ticked).filter (0 < ·.ticksLeft) := by
  obtain ⟨rfl, hjobs⟩ := step_eq_ok h.scripted hstep
  refine ⟨?_, hjobs⟩
  rw [← finished_updatesOf h]
  exact plan.filter_reported _ _

theorem submit_jobs (h : plan.Faithful) {r : Request} (hsubmit : plan.submit s r = (.ok (), s')) :
    ∃ ticks, 0 < ticks ∧ s'.jobs = s.jobs ++ [⟨r, ticks⟩] := by
  unfold submit at hsubmit
  dsimp only at hsubmit
  split at hsubmit
  · cases hsubmit
  · cases hsubmit
    refine ⟨plan.ticksOf s.accepted.length, ?_, ?_⟩
    · unfold ticksOf
      omega
    · simp only [h.scripted, Bool.false_eq_true, if_false]

/-- A rehearsed engine that loses and doubles nothing keeps what it accepts. -/
theorem Faithful.keeps (h : plan.Faithful) (hlast : ∀ r, answers r (plan.last r)) :
    plan.engine.Keeps answers Owes where
  accepted := by
    intro s s' rs r howes hsubmit
    obtain ⟨ticks, hticks, hjobs⟩ := submit_jobs h hsubmit
    constructor
    · rw [hjobs, List.map_append]
      exact howes.1.append_right [r]
    · intro job hjob
      rw [hjobs, List.mem_append, List.mem_singleton] at hjob
      rcases hjob with hjob | rfl
      · exact howes.2 job hjob
      · exact hticks
  refused := by
    intro s s' rs r reason howes hsubmit
    change plan.submit s r = _ at hsubmit
    unfold submit at hsubmit
    dsimp only at hsubmit
    split at hsubmit
    · cases hsubmit
      exact howes
    · cases hsubmit
  stepped := by
    intro s s' rs us howes hstep
    obtain ⟨hfinished, hjobs⟩ := step_jobs h hstep
    have hperm : rs.Perm ((s.jobs.map ticked).map (·.request)) := by
      rw [List.map_map]
      exact howes.1
    refine ⟨plan.reported (((s.jobs.map ticked).filter (·.ticksLeft = 0)).map (·.request)),
      ((s.jobs.map ticked).filter (0 < ·.ticksLeft)).map (·.request), ?_, ?_, ?_⟩
    · apply hperm.trans
      apply List.Perm.trans ?_ ((plan.reported_perm _).symm.append_right _)
      rw [← List.map_append]
      apply List.Perm.map
      have hsplit := (List.filter_append_perm (fun job : Job => decide (job.ticksLeft = 0)) (s.jobs.map ticked)).symm
      simpa only [← decide_not, Nat.pos_iff_ne_zero] using hsplit
    · rw [hfinished, ← map_reported, ← map_reported, List.forall₂_map_left_iff, List.forall₂_map_right_iff,
        List.forall₂_same]
      exact fun job _ => hlast job.request
    · rw [← hjobs]
      refine ⟨.refl _, ?_⟩
      intro job hjob
      rw [hjobs] at hjob
      exact of_decide_eq_true (List.mem_filter.mp hjob).2
  failed := by
    intro s s' rs reason howes hstep
    change plan.step s = _ at hstep
    unfold step at hstep
    dsimp only at hstep
    split at hstep
    · cases hstep
      exact howes
    · simp only [h.scripted, Bool.false_eq_true, if_false] at hstep
      cases hstep
  idle_iff := by
    intro s rs howes
    rw [idle_iff_jobs h.scripted]
    constructor
    · intro hnil
      have hperm := howes.1
      rw [hnil] at hperm
      exact hperm.eq_nil
    · rintro rfl
      exact List.map_eq_nil_iff.mp howes.1.nil_eq.symm

/-- Jobs that are due within a number of ticks are gone after that many steps. -/
theorem owes_after (h : plan.Faithful) (hfailing : plan.failing = []) {k : Nat} {rs : List Request}
    (howes : Owes s rs) (hdue : ∀ job ∈ s.jobs, job.ticksLeft ≤ k) : Owes (plan.engine.after k s) [] := by
  have hkeeps : plan.engine.Keeps (fun r u => u = plan.last r) Owes := h.keeps fun _ => rfl
  induction k generalizing s rs with
  | zero =>
    have hnil : s.jobs = [] := by
      apply List.eq_nil_iff_forall_not_mem.mpr
      intro job hjob
      have hpos := howes.2 job hjob
      have hle := hdue job hjob
      omega
    change Owes s []
    refine ⟨?_, howes.2⟩
    rw [hnil]
    exact .refl _
  | succ k ih =>
    cases hstep : plan.step s with
    | mk answer s' =>
      cases answer with
      | error reason =>
        simp [step, hfailing, h.scripted] at hstep
      | ok us =>
        obtain ⟨_, rest, _, _, hrest⟩ := hkeeps.stepped howes hstep
        have hafter : plan.engine.after (k + 1) s = plan.engine.after k s' := by
          rw [Engine.after, show plan.engine.step s = plan.step s from rfl, hstep]
        rw [hafter]
        apply ih hrest
        intro job hjob
        rw [(step_jobs h hstep).2] at hjob
        obtain ⟨old, hold, rfl⟩ := List.mem_map.mp (List.mem_filter.mp hjob).1
        have hle := hdue old hold
        simp only [ticked]
        omega

/-- A rehearsed engine that moreover refuses nothing and never fails is reliable. -/
theorem Faithful.reliable (h : plan.Faithful) (hrefused : plan.refused = []) (hfailing : plan.failing = [])
    (hlast : ∀ r, answers r (plan.last r)) : plan.engine.Reliable answers Owes where
  toKeeps := h.keeps hlast
  accepts := by
    intro s rs r _
    change (plan.submit s r).1 = _
    simp [submit, hrefused]
  steps := by
    intro s rs _
    exact exists_step_ok h.scripted hfailing s
  finishes := by
    intro s rs howes
    refine ⟨(s.jobs.map (·.ticksLeft)).sum, ?_⟩
    apply owes_after h hfailing howes
    intro job hjob
    exact List.le_sum_of_mem (List.mem_map_of_mem hjob)

/-- The last update on a request answers it, unless the engine mistakes requests for ones of the other kind. -/
theorem answers_last (hmistaken : plan.mistaken = []) (r : Request) : Update.Answers r (plan.last r) := by
  unfold last
  rw [hmistaken]
  exact ⟨plan.answers.id_update _ _ _ _, plan.answers.sort_update _ _ _⟩

end Plan

end BatchInference.Scripted
