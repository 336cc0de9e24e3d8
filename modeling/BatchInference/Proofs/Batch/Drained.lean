import BatchInference.Proofs.Batch.Recording
import BatchInference.Proofs.Engine.Stretches

/-!
What a drain does to any engine whatever, and what it makes of what the engine reports. It takes steps for as long as
the engine has unfinished requests and no longer; the finished updates of all its steps are sorted stably, and none is
lost or added; and the first step that fails is the last.
-/

namespace BatchInference

variable {σ τ : Type}

/-- A drain of an engine, from the state it finds: its result, what it asks of the engine, and the state it leaves.
Every step it takes finds the engine with unfinished requests and everything that was reported before collected. -/
inductive Engine.Drains (e : Engine σ) (ticks : Nat) (s : σ) :
    Except Halt (List Update) → List EngineUse → σ → Prop
  | idle {reports : List (List Update)} {us : List Update} {last : σ} :
    e.Works s reports last → e.hasUnfinished last = false → reports.length ≤ ticks →
      Update.SortsStably (reports.flatten.filter (·.finished)) us →
      e.Drains ticks s (.ok us) (List.replicate reports.length .stepped) last
  | failed {reports : List (List Update)} {reason : String} {mid last : σ} :
    e.Works s reports mid → e.hasUnfinished mid = true → reports.length < ticks →
      e.step mid = (.error reason, last) →
      e.Drains ticks s (.error (.failed (.engine (.reported reason))))
        (List.replicate (reports.length + 1) .stepped) last
  | outOfTicks {reports : List (List Update)} {last : σ} :
    e.Works s reports last → e.hasUnfinished last = true → reports.length = ticks →
      e.Drains ticks s (.error .outOfTicks) (List.replicate reports.length .stepped) last

namespace Engine

variable {e : Engine σ} {ticks : Nat} {s last : σ} {result : Except Halt (List Update)} {asked : List EngineUse}

/-- Sorting what work has finished, and failing where it failed, makes it a drain. -/
theorem drains_work (e : Engine σ) (ticks : Nat) (s : σ) :
    e.Drains ticks s ((e.work ticks s).result (Update.sorted (e.work ticks s).finished))
      (List.replicate (e.work ticks s).steps .stepped) (e.work ticks s).engine := by
  obtain ⟨reports, mid, hworks, ⟨hidle, hle⟩ | ⟨hbusy, hlt, reason, last, hstep⟩ | ⟨hbusy, heq⟩⟩ :=
    e.exists_works ticks s
  · rw [hworks.work_idle hidle hle]
    exact .idle hworks hidle hle (Update.sortsStably_sorted _)
  · rw [hworks.work_failed hbusy hstep hlt]
    exact .failed hworks hbusy hlt hstep
  · subst heq
    rw [hworks.work_stopped hbusy]
    exact .outOfTicks hworks hbusy rfl

theorem Drains.eq_work (h : e.Drains ticks s result asked last) :
    result = (e.work ticks s).result (Update.sorted (e.work ticks s).finished) ∧
      asked = List.replicate (e.work ticks s).steps .stepped ∧ last = (e.work ticks s).engine := by
  cases h with
  | idle hworks hidle hle hsorts =>
    rw [hworks.work_idle hidle hle]
    exact ⟨congrArg Except.ok (hsorts.unique (Update.sortsStably_sorted _)), rfl, rfl⟩
  | failed hworks hbusy hlt hstep =>
    rw [hworks.work_failed hbusy hstep hlt]
    exact ⟨rfl, rfl, rfl⟩
  | outOfTicks hworks hbusy heq =>
    subst heq
    rw [hworks.work_stopped hbusy]
    exact ⟨rfl, rfl, rfl⟩

end Engine

namespace Service

/-- A drain asks for one step for each that the engine's work takes. -/
theorem drain_asks (svc : Service σ) (ticks : Nat) (sink : ProgressSink τ) (w : World σ τ) :
    (svc.drain ticks sink).EndsAsking (svc.recorded.drain ticks sink) w
      (List.replicate (svc.engine.work ticks w.engine).steps .stepped)
      ((svc.engine.work ticks w.engine).result (Update.sorted (svc.engine.work ticks w.engine).finished))
      ⟨(svc.engine.work ticks w.engine).engine, w.counter, w.defaults⟩ where
  ends := svc.drain_ends ticks sink rfl
  grows := by
    intro uses
    have hends := svc.recorded.drain_ends ticks sink (w := w.recorded uses) (s := (w.engine, uses)) rfl
    rw [engine_recorded, Engine.work_recorded] at hends
    exact hends

/-- Whatever the engine reports, step after step, a drain loses nothing of what is finished and adds nothing to it,
takes no step of an idle engine, and returns the error of the first step that fails. -/
theorem drain_exact (svc : Service σ) (ticks : Nat) (sink : ProgressSink τ) (w : World σ τ)
    (result : Except Halt (List Update)) (after : Core σ) :
    (svc.drain ticks sink).Ends w result after ↔
      ∃ asked last, svc.engine.Drains ticks w.engine result asked last ∧ after = ⟨last, w.counter, w.defaults⟩ ∧
        ∀ uses, (svc.recorded.drain ticks sink).Ends (w.recorded uses) result (after.recorded (uses ++ asked)) := by
  have hdrain := svc.drain_asks ticks sink w
  constructor
  · intro hends
    obtain ⟨rfl, rfl⟩ := hends.unique hdrain.ends
    exact ⟨_, _, svc.engine.drains_work ticks w.engine, rfl, hdrain.grows⟩
  · rintro ⟨asked, last, hdrains, rfl, -⟩
    obtain ⟨rfl, -, rfl⟩ := hdrains.eq_work
    exact hdrain.ends

end Service

end BatchInference
