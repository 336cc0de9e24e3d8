import Mathlib.Data.Finset.Lattice.Fold
import Mathlib.Order.Lattice.Nat
import BatchInference.Proofs.Engine.Stretches

/-!
When the requests of an engine finish. A timetable gives for each unfinished request the step from now on which it
finishes, and says nothing about what the steps report. An engine that keeps to one is busy until the last of its
requests is due and idle from then on, so that its work lasts exactly as many steps as the slowest request takes.
-/

namespace BatchInference.Engine

variable {σ ι : Type} {e : Engine σ} {s mid : σ} {unfinished : σ → Finset ι} {due : ι → Nat}
  {reports : List (List Update)} {ticks : Nat}

/-- From the state `s` on, each unfinished request finishes on the step that it is due on, for as long as the engine
works, so that none is due before the first step. The engine tells whether any request is unfinished, none comes in
between, and no step fails. -/
structure Timetable (e : Engine σ) (s : σ) (unfinished : σ → Finset ι) (due : ι → Nat) : Prop where
  told {reports : List (List Update)} {mid : σ} :
    e.Works s reports mid → (e.hasUnfinished mid = true ↔ (unfinished mid).Nonempty)
  finishes {reports : List (List Update)} {mid : σ} :
    e.Works s reports mid → ∀ i, i ∈ unfinished mid ↔ i ∈ unfinished s ∧ reports.length < due i
  succeeds {reports : List (List Update)} {mid : σ} :
    e.Works s reports mid → (unfinished mid).Nonempty → ∃ updates, (e.step mid).1 = .ok updates

namespace Timetable

/-- An engine is busy for as long as some request is not due. -/
theorem busy_iff (h : e.Timetable s unfinished due) (hworks : e.Works s reports mid) :
    e.hasUnfinished mid = true ↔ reports.length < (unfinished s).sup due := by
  rw [h.told hworks, Finset.lt_sup_iff]
  exact exists_congr (h.finishes hworks)

/-- The engine goes on to work at least until the last request is due. -/
theorem exists_works_of_le (h : e.Timetable s unfinished due) (hle : ticks ≤ (unfinished s).sup due) :
    ∃ reports mid, e.Works s reports mid ∧ reports.length = ticks := by
  obtain ⟨reports, mid, hworks, ⟨hidle, hlength⟩ | ⟨hbusy, -, reason, last, hstep⟩ | ⟨-, hlength⟩⟩ :=
    e.exists_works ticks s
  · have hlast : (unfinished s).sup due ≤ reports.length := by
      by_contra hearly
      have hbusy := (h.busy_iff hworks).mpr (Nat.lt_of_not_le hearly)
      rw [hidle] at hbusy
      cases hbusy
    exact ⟨reports, mid, hworks, by omega⟩
  · obtain ⟨updates, hok⟩ := h.succeeds hworks ((h.told hworks).mp hbusy)
    rw [hstep] at hok
    cases hok
  · exact ⟨reports, mid, hworks, hlength⟩

theorem unfinished_eq_empty (h : e.Timetable s unfinished due) (hworks : e.Works s reports mid)
    (hlength : reports.length = (unfinished s).sup due) : unfinished mid = ∅ := by
  rw [← Finset.not_nonempty_iff_eq_empty, ← h.told hworks, h.busy_iff hworks, hlength]
  exact Nat.lt_irrefl _

theorem unfinished_nonempty (h : e.Timetable s unfinished due) (hworks : e.Works s reports mid)
    (hlength : reports.length < (unfinished s).sup due) : (unfinished mid).Nonempty :=
  (h.told hworks).mp ((h.busy_iff hworks).mpr hlength)

/-- Work ends by itself when the last request is due, if it may go on for so long. -/
theorem work_done (h : e.Timetable s unfinished due) (hworks : e.Works s reports mid)
    (hlength : reports.length = (unfinished s).sup due) (hticks : (unfinished s).sup due ≤ ticks) :
    e.work ticks s = ⟨reports, none, mid⟩ := by
  have hidle : e.hasUnfinished mid = false := by
    rw [← Bool.not_eq_true, h.busy_iff hworks, hlength]
    exact Nat.lt_irrefl _
  exact hworks.work_idle hidle (hlength.trans_le hticks)

/-- Work that may not go on for so long is broken off. -/
theorem work_broken_off (h : e.Timetable s unfinished due) (hworks : e.Works s reports mid)
    (hlength : reports.length < (unfinished s).sup due) :
    e.work reports.length s = ⟨reports, some .outOfTicks, mid⟩ :=
  hworks.work_stopped ((h.busy_iff hworks).mpr hlength)

end Timetable

end BatchInference.Engine
