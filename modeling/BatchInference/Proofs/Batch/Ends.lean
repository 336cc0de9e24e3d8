import BatchInference.Batch.Calls
import BatchInference.Proofs.Activity
import BatchInference.Proofs.Engine.Work
import BatchInference.Proofs.Batch.Order

/-!
How the parts of a batch end. Submission ends as the offering of the numbered requests does, the drain as the
engine's work does, and a whole batch as the two do one after the other. Nothing else that a batch does comes
back to it, so these ends are all that later statements need.
-/

namespace BatchInference

/-- What a submission results in, by the engine's reason if it refused a request. -/
def Offering.result {σ α : Type} (o : Offering σ) (ids : α) : Except Halt α :=
  match o.refusal with
  | none => .ok ids
  | some reason => .error (.failed (.engine (.reported reason)))

/-- What a drain results in, by the reason if the work ended early. -/
def Work.result {σ α : Type} (k : Work σ) (updates : α) : Except Halt α :=
  match k.halt with
  | none => .ok updates
  | some h => .error h

def TokenTotals.count (t : TokenTotals) : Update → TokenTotals
  | .generation g => ⟨t.input + g.numInputTokens, t.output + g.numOutputTokens⟩
  | .pooled _ => t

namespace Service

open Run

variable {σ τ : Type} {w : World σ τ} {s : σ} {c : IdCounter} {d : Option SamplingParams}

/-- Handing over one request costs one id, whatever the engine answers. -/
theorem submitOne_ends (svc : Service σ) (sink : ProgressSink τ) (p : PendingRequest) (hw : w.core = ⟨s, c, d⟩) :
    (svc.submitOne sink p).Ends w
      (match (svc.engine.submit s (p.withId c.peek)).1 with
        | .ok () => .ok c.peek
        | .error reason => .error (.failed (.engine (.reported reason))))
      ⟨(svc.engine.submit s (p.withId c.peek)).2, c.draw.2, d⟩ := by
  apply (ends_drawId hw).bind
  intro w₁ h₁
  apply (ends_showRequest svc _ h₁).bind
  intro w₂ h₂
  apply (ends_offer svc.engine _ h₂).bind
  intro w₃ h₃
  cases (svc.engine.submit s (p.withId c.peek)).1 with
  | ok => exact (ends_report sink _ h₃).bind fun _ h₄ => ends_pure _ h₄
  | error reason =>
    apply (ends_log _ _ h₃).bind
    intro w₄ h₄
    exact (ends_report sink _ h₄).bind fun _ h₅ => ends_fail _ h₅

theorem submitAll_ends (svc : Service σ) (sink : ProgressSink τ) (ps : List PendingRequest)
    (hw : w.core = ⟨s, c, d⟩) :
    (svc.submitAll sink ps).Ends w ((svc.engine.offerAll (c.number ps) s).result (c.ids ps.length))
      ⟨(svc.engine.offerAll (c.number ps) s).engine, c.skip (svc.engine.offerAll (c.number ps) s).offers, d⟩ := by
  induction ps generalizing w s c with
  | nil =>
    simp only [IdCounter.number, Engine.offerAll, IdCounter.skip_zero]
    exact ends_pure [] hw
  | cons p rest ih =>
    have hone := svc.submitOne_ends sink p hw
    simp only [IdCounter.number, List.length_cons]
    cases hsubmit : svc.engine.submit s (p.withId c.peek) with
    | mk answer s' =>
      rw [hsubmit] at hone
      cases answer with
      | ok =>
        rw [Engine.offerAll_cons_ok hsubmit]
        apply hone.bind
        intro w₁ h₁
        have hrest := ih h₁
        rw [IdCounter.skip_draw] at hrest
        simp only [Offering.result] at hrest ⊢
        cases hrefusal : (svc.engine.offerAll (c.draw.2.number rest) s').refusal with
        | none =>
          rw [hrefusal] at hrest
          rw [IdCounter.ids_succ]
          exact hrest.bind fun _ h₂ => ends_pure _ h₂
        | some reason =>
          rw [hrefusal] at hrest
          exact hrest.bind_error
      | error reason =>
        rw [Engine.offerAll_cons_error hsubmit]
        exact hone.bind_error

/-- A submission ends as the offering of its numbered requests does. -/
theorem submit_ends (svc : Service σ) (sink : ProgressSink τ) (ps : List PendingRequest)
    (hw : w.core = ⟨s, c, d⟩) :
    (svc.submit sink ps).Ends w ((svc.engine.offerAll (c.number ps) s).result (c.ids ps.length))
      ⟨(svc.engine.offerAll (c.number ps) s).engine, c.skip (svc.engine.offerAll (c.number ps) s).offers, d⟩ := by
  apply (ends_report sink _ hw).bind
  intro w₁ h₁
  have hall := svc.submitAll_ends sink ps h₁
  simp only [Offering.result] at hall ⊢
  cases hrefusal : (svc.engine.offerAll (c.number ps) s).refusal with
  | none =>
    rw [hrefusal] at hall
    apply hall.bind
    intro w₂ h₂
    apply (ends_log _ _ h₂).bind
    intro w₃ h₃
    exact (ends_report sink _ h₃).bind fun _ h₄ => ends_pure _ h₄
  | some reason =>
    rw [hrefusal] at hall
    exact hall.bind_error

theorem reportFinished_ends (sink : ProgressSink τ) (us : List Update) (totals : TokenTotals) {after : Core σ}
    (hw : w.core = after) : (reportFinished sink us totals).Ends w (.ok (us.foldl TokenTotals.count totals)) after := by
  induction us generalizing w totals with
  | nil => exact ends_pure totals hw
  | cons u rest ih =>
    cases u with
    | generation g =>
      apply (ends_report sink _ hw).bind
      intro w₁ h₁
      exact (ends_report sink _ h₁).bind fun _ h₂ => ih _ h₂
    | pooled p => exact (ends_report sink _ hw).bind fun _ h₁ => ih _ h₁

/-- The engine is stepped as its own work says, and the finished updates of all steps are kept. -/
theorem collect_ends (svc : Service σ) (sink : ProgressSink τ) (ticks : Nat) (totals : TokenTotals)
    (hw : w.core = ⟨s, c, d⟩) :
    (svc.collect sink ticks totals).Ends w ((svc.engine.work ticks s).result (svc.engine.work ticks s).finished)
      ⟨(svc.engine.work ticks s).engine, c, d⟩ := by
  induction ticks generalizing w s totals with
  | zero =>
    unfold collect
    apply (ends_get hw).bind
    intro w₁ h₁
    rw [show w.engine = s from congrArg Core.engine hw]
    cases hbusy : svc.engine.hasUnfinished s with
    | false =>
      rw [Engine.work_idle hbusy]
      exact ends_pure [] h₁
    | true =>
      rw [Engine.work_zero hbusy]
      exact ⟨w₁, rfl, h₁⟩
  | succ ticks ih =>
    unfold collect
    apply (ends_get hw).bind
    intro w₁ h₁
    rw [show w.engine = s from congrArg Core.engine hw]
    cases hbusy : svc.engine.hasUnfinished s with
    | false =>
      rw [Engine.work_idle hbusy]
      exact ends_pure [] h₁
    | true =>
      have htick := ends_tick svc.engine h₁
      cases hstep : svc.engine.step s with
      | mk answer s' =>
        rw [hstep] at htick
        cases answer with
        | error reason =>
          rw [Engine.work_succ_error hbusy hstep]
          exact htick.bind fun _ h₂ => ends_fail _ h₂
        | ok updates =>
          rw [Engine.work_succ_ok hbusy hstep]
          apply htick.bind
          intro w₂ h₂
          apply (reportFinished_ends sink _ totals h₂).bind
          intro w₃ h₃
          have hrest := ih ((updates.filter (·.finished)).foldl TokenTotals.count totals) h₃
          simp only [Work.result] at hrest ⊢
          cases hhalt : (svc.engine.work ticks s').halt with
          | none =>
            rw [hhalt] at hrest
            apply hrest.bind
            intro w₄ h₄
            simp only [Work.finished, List.flatten_cons, List.filter_append]
            exact ends_pure _ h₄
          | some h =>
            rw [hhalt] at hrest
            exact hrest.bind_error

/-- A drain ends as the engine's work does, with the finished updates sorted by id. -/
theorem drain_ends (svc : Service σ) (ticks : Nat) (sink : ProgressSink τ) (hw : w.core = ⟨s, c, d⟩) :
    (svc.drain ticks sink).Ends w
      ((svc.engine.work ticks s).result (Update.sorted (svc.engine.work ticks s).finished))
      ⟨(svc.engine.work ticks s).engine, c, d⟩ := by
  apply (ends_get hw).bind
  intro w₁ h₁
  apply (ends_log _ _ h₁).bind
  intro w₂ h₂
  apply (ends_report sink _ h₂).bind
  intro w₃ h₃
  apply (ends_report sink _ h₃).bind
  intro w₄ h₄
  apply (svc.collect_ends sink ticks {} h₄).settle.bind
  intro w₅ h₅
  apply (ends_report sink _ h₅).bind
  intro w₆ h₆
  have hresume := ends_resume ((svc.engine.work ticks s).result (svc.engine.work ticks s).finished) h₆
  simp only [Work.result] at hresume ⊢
  cases hhalt : (svc.engine.work ticks s).halt with
  | none =>
    rw [hhalt] at hresume
    exact hresume.bind fun _ h₇ => ends_pure _ h₇
  | some h =>
    rw [hhalt] at hresume
    exact hresume.bind_error

/-- What a batch comes to, from the core it finds: it is refused before anything happens, the engine refuses one of
its requests, or the engine works on it. -/
def batchEnd (svc : Service σ) (ticks : Nat) (batch : Batch) (core : Core σ) : Except Halt (List Update) × Core σ :=
  match batch.prepare svc.model with
  | .error e => (.error (.failed e), core)
  | .ok pending =>
    let offering := svc.engine.offerAll (core.counter.number pending) core.engine
    let counter := core.counter.skip offering.offers
    match offering.refusal with
    | some reason =>
      (.error (.failed (.engine (.reported reason))), { core with engine := offering.engine, counter })
    | none =>
      let work := svc.engine.work ticks offering.engine
      (work.result (Update.sorted work.finished), { core with engine := work.engine, counter })

theorem runBatch_ends (svc : Service σ) (ticks : Nat) (batch : Batch) (sink : ProgressSink τ) {core : Core σ}
    (hw : w.core = core) :
    (svc.runBatch ticks batch sink).Ends w (svc.batchEnd ticks batch core).1 (svc.batchEnd ticks batch core).2 := by
  unfold batchEnd
  cases hprepare : batch.prepare svc.model with
  | error err => exact (ends_check_error hprepare hw).bind_error
  | ok pending =>
    apply (ends_check_ok hprepare hw).bind
    intro w₁ h₁
    have hsubmit := svc.submit_ends sink pending h₁
    dsimp only
    cases hrefusal : (svc.engine.offerAll (core.counter.number pending) core.engine).refusal with
    | some reason =>
      simp only [Offering.result, hrefusal] at hsubmit
      exact hsubmit.bind_error
    | none =>
      simp only [Offering.result, hrefusal] at hsubmit
      exact hsubmit.bind fun w₂ h₂ => svc.drain_ends ticks sink h₂

variable {batch : Batch} {pending : List PendingRequest} {core after : Core σ} {ticks : Nat} {us : List Update}

theorem batchEnd_of_prepare_error {svc : Service σ} {e : CallError} (h : batch.prepare svc.model = .error e) :
    svc.batchEnd ticks batch core = (.error (.failed e), core) := by
  simp only [batchEnd, h]

/-- A batch whose requests are all accepted comes to what the engine's work on them comes to. -/
theorem batchEnd_accepted {svc : Service σ} (h : batch.prepare svc.model = .ok pending)
    (hrefusal : (svc.engine.offerAll (core.counter.number pending) core.engine).refusal = none) {work : Work σ}
    (hwork : svc.engine.work ticks (svc.engine.offerAll (core.counter.number pending) core.engine).engine = work) :
    svc.batchEnd ticks batch core = (work.result (Update.sorted work.finished),
      { core with engine := work.engine, counter := core.counter.skip pending.length }) := by
  have hoffers := Engine.offers_of_accepted hrefusal
  rw [IdCounter.length_number] at hoffers
  simp only [batchEnd, h, hrefusal, hoffers, hwork]

/-- A batch that comes to updates had its requests accepted, and the engine worked until it was idle. -/
theorem exists_of_batchEnd {svc : Service σ} (h : svc.batchEnd ticks batch core = (.ok us, after)) :
    ∃ pending work, batch.prepare svc.model = .ok pending ∧
      (svc.engine.offerAll (core.counter.number pending) core.engine).refusal = none ∧
      svc.engine.work ticks (svc.engine.offerAll (core.counter.number pending) core.engine).engine = work ∧
      work.halt = none ∧ us = Update.sorted work.finished ∧
      after = { core with engine := work.engine, counter := core.counter.skip pending.length } := by
  cases hprepare : batch.prepare svc.model with
  | error err => simp [batchEnd, hprepare] at h
  | ok pending =>
    cases hrefusal : (svc.engine.offerAll (core.counter.number pending) core.engine).refusal with
    | some reason => simp [batchEnd, hprepare, hrefusal] at h
    | none =>
      rw [batchEnd_accepted hprepare hrefusal rfl] at h
      refine ⟨pending, _, rfl, hrefusal, rfl, ?_⟩
      simp only [Work.result, Prod.mk.injEq] at h
      obtain ⟨hresult, rfl⟩ := h
      cases hhalt : (svc.engine.work ticks
          (svc.engine.offerAll (core.counter.number pending) core.engine).engine).halt with
      | some halt => simp [hhalt] at hresult
      | none =>
        simp only [hhalt, Except.ok.injEq] at hresult
        exact ⟨rfl, hresult.symm, rfl⟩

theorem batchEnd_eq_of_le {svc : Service σ} (h : svc.batchEnd ticks batch core = (.ok us, after)) {more : Nat}
    (hle : ticks ≤ more) : svc.batchEnd more batch core = (.ok us, after) := by
  obtain ⟨pending, work, hprepare, haccepted, rfl, hhalt, _, _⟩ := exists_of_batchEnd h
  rw [batchEnd_accepted hprepare haccepted (Engine.work_eq_of_le hhalt hle), ← h]
  exact (batchEnd_accepted hprepare haccepted rfl).symm

end Service

end BatchInference
