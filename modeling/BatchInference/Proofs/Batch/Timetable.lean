import BatchInference.Proofs.Batch.Drained
import BatchInference.Proofs.Engine.Timetable
import BatchInference.Proofs.Scripted.Contract

/-!
How long a drain lasts. Over an engine that keeps to a timetable a drain takes as many steps as the slowest request
takes, and no fewer steps are enough, whatever the steps report and however many updates are finished at once.
-/

namespace BatchInference

namespace Scripted.Plan

variable {plan : Plan} {s last : State} {reports : List (List Update)} {job : Job}

def requestIds (s : State) : Finset RequestId := (s.jobs.map (·.request.id)).toFinset

theorem mem_requestIds {id : RequestId} : id ∈ requestIds s ↔ ∃ job ∈ s.jobs, job.request.id = id := by
  simp [requestIds]

/-- The jobs that are left of a stretch of work are those that take longer than it, with so many ticks less to go. -/
theorem mem_jobs_of_works (hscripted : plan.scripted = false) (hworks : plan.engine.Works s reports last)
    (hpos : ∀ job ∈ s.jobs, 0 < job.ticksLeft) :
    job ∈ last.jobs ↔
      ∃ old ∈ s.jobs, reports.length < old.ticksLeft ∧ job = ⟨old.request, old.ticksLeft - reports.length⟩ := by
  induction hworks generalizing job with
  | none =>
    constructor
    · intro hjob
      exact ⟨job, hjob, hpos job hjob, rfl⟩
    · rintro ⟨old, hold, -, rfl⟩
      exact hold
  | @next s mid last updates reports hbusy hstep hworks ih =>
    have hjobs : mid.jobs = (s.jobs.map ticked).filter (0 < ·.ticksLeft) := (step_eq_ok hscripted hstep).2
    have hpos' : ∀ job ∈ mid.jobs, 0 < job.ticksLeft := by
      intro job hjob
      rw [hjobs] at hjob
      exact of_decide_eq_true (List.mem_filter.mp hjob).2
    rw [ih hpos', hjobs, List.length_cons]
    constructor
    · rintro ⟨_, hleft, hlt, rfl⟩
      obtain ⟨old, hold, rfl⟩ := List.mem_map.mp (List.mem_filter.mp hleft).1
      simp only [ticked] at hlt ⊢
      exact ⟨old, hold, by omega, by rw [Nat.sub_sub, Nat.add_comm 1]⟩
    · rintro ⟨old, hold, hlt, rfl⟩
      refine ⟨ticked old, ?_, ?_, ?_⟩
      · refine List.mem_filter.mpr ⟨List.mem_map_of_mem hold, decide_eq_true ?_⟩
        simp only [ticked]
        omega
      · simp only [ticked]
        omega
      · simp only [ticked, Nat.sub_sub, Nat.add_comm 1]

/-- A rehearsed engine that fails on no step keeps to the timetable of its jobs, also where it loses updates or reports
them twice. -/
theorem timetable (hscripted : plan.scripted = false) (hfailing : plan.failing = [])
    (hpos : ∀ job ∈ s.jobs, 0 < job.ticksLeft) {due : RequestId → Nat}
    (hdue : ∀ job ∈ s.jobs, due job.request.id = job.ticksLeft) : plan.engine.Timetable s requestIds due where
  told := by
    intro reports mid _
    rw [← Bool.not_eq_false, idle_iff_jobs hscripted, requestIds, List.toFinset_nonempty_iff, ne_eq,
      List.map_eq_nil_iff]
  finishes := by
    intro reports mid hworks id
    simp only [mem_requestIds, mem_jobs_of_works hscripted hworks hpos]
    constructor
    · rintro ⟨_, ⟨old, hold, hlt, rfl⟩, rfl⟩
      exact ⟨⟨old, hold, rfl⟩, by rwa [hdue old hold]⟩
    · rintro ⟨⟨old, hold, rfl⟩, hlt⟩
      rw [hdue old hold] at hlt
      exact ⟨_, ⟨old, hold, hlt, rfl⟩, rfl⟩
  succeeds := by
    intro reports mid _ _
    exact exists_step_ok hscripted hfailing mid

end Scripted.Plan

namespace Service

variable {σ τ ι : Type} {svc : Service σ} {w : World σ τ} {unfinished : σ → Finset ι} {due : ι → Nat}

/-- Over an engine whose requests finish as a timetable says a drain takes exactly as many steps as the slowest of them
takes, none if nothing is unfinished, and returns what those steps report finished. It asks nothing else of the engine,
and if it may take fewer steps than that it takes them all and is not done. -/
theorem drain_lasts_until_last_due (h : svc.engine.Timetable w.engine unfinished due) (sink : ProgressSink τ) :
    let slowest := (unfinished w.engine).sup due
    (∃ reports last, svc.engine.Works w.engine reports last ∧ reports.length = slowest ∧ unfinished last = ∅ ∧
      ∀ ticks, slowest ≤ ticks →
        (svc.drain ticks sink).EndsAsking (svc.recorded.drain ticks sink) w (List.replicate slowest .stepped)
          (.ok (Update.sorted (reports.flatten.filter (·.finished)))) ⟨last, w.counter, w.defaults⟩) ∧
      ∀ ticks < slowest, ∃ mid, (unfinished mid).Nonempty ∧
        (svc.drain ticks sink).EndsAsking (svc.recorded.drain ticks sink) w (List.replicate ticks .stepped)
          (.error .outOfTicks) ⟨mid, w.counter, w.defaults⟩ := by
  intro slowest
  constructor
  · obtain ⟨reports, last, hworks, hlength⟩ := h.exists_works_of_le (Nat.le_refl slowest)
    refine ⟨reports, last, hworks, hlength, h.unfinished_eq_empty hworks hlength, ?_⟩
    intro ticks hticks
    have hasks := svc.drain_asks ticks sink w
    rw [h.work_done hworks hlength hticks] at hasks
    rw [← hlength]
    exact hasks
  · intro ticks hticks
    obtain ⟨reports, mid, hworks, rfl⟩ := h.exists_works_of_le (Nat.le_of_lt hticks)
    have hasks := svc.drain_asks reports.length sink w
    rw [h.work_broken_off hworks hticks] at hasks
    exact ⟨mid, h.unfinished_nonempty hworks hticks, hasks⟩

/-- A service whose engine drops the first request without a word and answers the third one twice. -/
def carelessService : Service Scripted.State where
  engine := ({ answers := { offsets := [] }, alphabet := {}, lost := [⟨0⟩], doubled := [⟨2⟩] } : Scripted.Plan).engine
  tokenizer := Scripted.Alphabet.tokenizer {}
  logger := none

/-- Three requests at work, of which the second takes longest. -/
def threeAtWork : World Scripted.State Unit where
  engine := { jobs := [(0, 2), (1, 4), (2, 1)].map fun (id, ticks) =>
    ⟨⟨⟨.ofTokens [7], .sampling {}, {}, none, 0⟩, ⟨id⟩⟩, ticks⟩ }
  counter := ⟨3⟩
  sink := ()

/-- The steps on which the three requests finish. -/
def threeDue (id : RequestId) : Nat :=
  if id = ⟨0⟩ then 2 else if id = ⟨1⟩ then 4 else 1

/-- The drain of three requests takes four steps if it may take a hundred, and is not done after three. -/
theorem three_at_work_drained :
    (∃ result after, (carelessService.drain 100 (.silent Unit)).EndsAsking
      (carelessService.recorded.drain 100 (.silent Unit)) threeAtWork (List.replicate 4 .stepped) (.ok result)
      after) ∧
    ∃ after, (carelessService.drain 3 (.silent Unit)).EndsAsking
      (carelessService.recorded.drain 3 (.silent Unit)) threeAtWork (List.replicate 3 .stepped)
      (.error .outOfTicks) after := by
  have htimetable : carelessService.engine.Timetable threeAtWork.engine Scripted.Plan.requestIds threeDue :=
    Scripted.Plan.timetable rfl rfl (by decide) (by decide)
  have hslowest : (Scripted.Plan.requestIds threeAtWork.engine).sup threeDue = 4 := by decide
  obtain ⟨⟨_, _, -, -, -, hdone⟩, hearly⟩ := drain_lasts_until_last_due htimetable (.silent Unit)
  rw [hslowest] at hdone hearly
  obtain ⟨_, -, hbroken⟩ := hearly 3 (by decide)
  exact ⟨⟨_, _, hdone 100 (by decide)⟩, _, hbroken⟩

end Service

end BatchInference
