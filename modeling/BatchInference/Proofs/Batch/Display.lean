import BatchInference.Proofs.Batch.Remarks

/-!
What a batch reports. Its submission is one phase, advanced once for each request that the engine takes; if the engine
takes them all, the drain is a second one, advanced with every finished update in the order in which the updates come.
Both are closed whatever the engine does.
-/

namespace BatchInference

open Run

/-- How many of the offered requests the engine took. -/
def Offering.accepted {σ : Type} (o : Offering σ) : Nat :=
  match o.refusal with
  | none => o.offers
  | some _ => o.offers - 1

theorem Engine.offers_pos_of_refused {σ : Type} {e : Engine σ} {rs : List Request} {s : σ} {reason : String}
    (h : (e.offerAll rs s).refusal = some reason) : 0 < (e.offerAll rs s).offers := by
  fun_cases e.offerAll rs s with
  | case1 s => cases h
  | case2 s r rest s' hsubmit => exact Nat.succ_pos _
  | case3 s r rest reason s' hsubmit => exact Nat.one_pos

theorem Engine.accepted_eq_length {σ : Type} {e : Engine σ} {rs : List Request} {s : σ}
    (h : (e.offerAll rs s).refusal = none) : (e.offerAll rs s).accepted = rs.length := by
  rw [Offering.accepted, h]
  exact offers_of_accepted h

theorem Engine.accepted_lt_of_refused {σ : Type} {e : Engine σ} {rs : List Request} {s : σ} {reason : String}
    (h : (e.offerAll rs s).refusal = some reason) : (e.offerAll rs s).accepted < rs.length := by
  have hpos := offers_pos_of_refused h
  have hle := e.offers_le rs s
  rw [Offering.accepted, h]
  dsimp only
  omega

/-- The engine takes a request and then as many of the rest as it does after that. -/
theorem Engine.accepted_cons_ok {σ : Type} {e : Engine σ} {r : Request} {rest : List Request} {s s' : σ}
    (h : e.submit s r = (.ok (), s')) : (e.offerAll (r :: rest) s).accepted = (e.offerAll rest s').accepted + 1 := by
  rw [offerAll_cons_ok h]
  unfold Offering.accepted
  cases hrefusal : (e.offerAll rest s').refusal with
  | none => rfl
  | some reason =>
    have hpos := offers_pos_of_refused hrefusal
    dsimp only
    omega

/-- What is reported while requests are offered. A refusal closes the phase. -/
def Offering.shown {σ : Type} (o : Offering σ) : List ProgressEvent :=
  List.replicate o.accepted (.advance 1) ++
    match o.refusal with
    | none => []
    | some _ => [.close]

theorem Engine.shown_cons_ok {σ : Type} {e : Engine σ} {r : Request} {rest : List Request} {s s' : σ}
    (h : e.submit s r = (.ok (), s')) :
    (e.offerAll (r :: rest) s).shown = .advance 1 :: (e.offerAll rest s').shown := by
  rw [Offering.shown, accepted_cons_ok h, List.replicate_succ, offerAll_cons_ok h]
  rfl

/-- The reports among what is said while requests are offered. -/
theorem Engine.reports_remarks {σ : Type} (e : Engine σ) (rs : List Request) (s : σ) :
    (e.remarks rs s).filterMap (·.report?) = (e.offerAll rs s).shown := by
  induction rs, s using Engine.offerAll.induct e with
  | case1 s => rfl
  | case2 r rest s s' hsubmit ih =>
    rw [shown_cons_ok hsubmit, ← ih]
    simp only [remarks, hsubmit, List.filterMap_append]
    rfl
  | case3 r rest s reason s' hsubmit =>
    simp only [remarks, hsubmit, offerAll_cons_error hsubmit]
    rfl

/-- By how much a finished update brings a drain forward. -/
def Update.share : Update → Nat
  | .generation g => g.outputs.length
  | .pooled _ => 1

/-- What is reported on a finished update, from the totals before it. -/
def TokenTotals.updatesOn (totals : TokenTotals) : Update → List PhaseUpdate
  | .generation g => [.status (totals.count (.generation g)).text, .advance g.outputs.length]
  | .pooled _ => [.advance 1]

/-- What is reported on finished updates in order. -/
def TokenTotals.updates : TokenTotals → List Update → List PhaseUpdate
  | _, [] => []
  | totals, u :: rest => totals.updatesOn u ++ (totals.count u).updates rest

theorem TokenTotals.updates_append (totals : TokenTotals) (us more : List Update) :
    totals.updates (us ++ more) = totals.updates us ++ (us.foldl count totals).updates more := by
  induction us generalizing totals with
  | nil => rfl
  | cons u rest ih => simp only [List.cons_append, updates, List.foldl_cons, ih, List.append_assoc]

/-- Every finished update advances the phase once, by its share. -/
theorem TokenTotals.advances_updates (totals : TokenTotals) (us : List Update) :
    (totals.updates us).filterMap (·.advanced?) = us.map (·.share) := by
  induction us generalizing totals with
  | nil => rfl
  | cons u rest ih =>
    rw [updates, List.filterMap_append, ih]
    cases u <;> rfl

namespace ProgressPhase

/-- The submission of a batch of which so many requests are accepted. -/
def submission (total accepted : Nat) : ProgressPhase :=
  ⟨"Adding requests", total, List.replicate accepted (.advance 1)⟩

/-- The drain of an engine that has so many unfinished requests and reports these finished updates. -/
def drain (total : Nat) (finished : List Update) : ProgressPhase :=
  ⟨"Processed prompts", total, .status (TokenTotals.text {}) :: TokenTotals.updates {} finished⟩

theorem advances_submission (total accepted : Nat) : (submission total accepted).advances = List.replicate accepted 1 :=
  List.filterMap_replicate_of_some rfl

theorem advances_drain (total : Nat) (finished : List Update) :
    (drain total finished).advances = finished.map (·.share) :=
  TokenTotals.advances_updates {} finished

end ProgressPhase

namespace Service

variable {σ τ : Type} {w : World σ τ} {s : σ} {c : IdCounter} {d : Option SamplingParams}

/-- The phases in which requests are submitted and, if all of them are accepted, the engine is drained. -/
def pendingPhases (svc : Service σ) (ticks : Nat) (pending : List PendingRequest) (core : Core σ) :
    List ProgressPhase :=
  let offering := svc.engine.offerAll (core.counter.number pending) core.engine
  let submission := ProgressPhase.submission pending.length offering.accepted
  match offering.refusal with
  | some _ => [submission]
  | none =>
    [submission, .drain (svc.engine.numUnfinished offering.engine) (svc.engine.work ticks offering.engine).finished]

/-- A submission is one phase, closed also when a request is refused. -/
theorem submit_shows (svc : Service σ) (sink : ProgressSink τ) (ps : List PendingRequest) (hw : w.core = ⟨s, c, d⟩) :
    (svc.submit sink ps).Shows sink w
      (ProgressPhase.submission ps.length (svc.engine.offerAll (c.number ps) s).accepted).events := by
  have hshows := (svc.submit_tells sink ps hw).shows
  simp only [List.filterMap_cons, Remark.report?_report, List.filterMap_append, Engine.reports_remarks] at hshows
  simp only [ProgressPhase.events, ProgressPhase.submission, List.map_replicate, PhaseUpdate.event, List.cons_append]
  cases hrefusal : (svc.engine.offerAll (c.number ps) s).refusal with
  | none => simpa [Offering.shown, hrefusal, Remark.submitted, List.filterMap_cons] using hshows
  | some reason => simpa [Offering.shown, hrefusal] using hshows

theorem reportFinished_shows (sink : ProgressSink τ) (us : List Update) (totals : TokenTotals) (w : World σ τ) :
    (reportFinished sink us totals).Shows sink w ((totals.updates us).map (·.event)) := by
  induction us generalizing w totals with
  | nil => exact quiet_pure totals w
  | cons u rest ih =>
    cases u with
    | generation g => exact report_shows rfl fun w₁ h₁ => report_shows h₁ fun w₂ _ => ih _ w₂
    | pooled p => exact report_shows rfl fun w₁ _ => ih _ w₁

/-- The finished updates of every step are reported before the next step is taken, also when that step fails. -/
theorem collect_shows (svc : Service σ) (sink : ProgressSink τ) (ticks : Nat) (totals : TokenTotals)
    (hw : w.core = ⟨s, c, d⟩) :
    (svc.collect sink ticks totals).Shows sink w
      ((totals.updates (svc.engine.work ticks s).finished).map (·.event)) := by
  induction ticks generalizing w s totals with
  | zero =>
    unfold collect
    apply quiet_get.bind_shows (ends_get hw)
    intro w₁ _
    rw [show w.engine = s from congrArg Core.engine hw]
    cases hbusy : svc.engine.hasUnfinished s with
    | false =>
      rw [Engine.work_idle hbusy]
      exact quiet_pure [] w₁
    | true =>
      rw [Engine.work_zero hbusy]
      exact quiet_halt _ w₁
  | succ ticks ih =>
    unfold collect
    apply quiet_get.bind_shows (ends_get hw)
    intro w₁ h₁
    rw [show w.engine = s from congrArg Core.engine hw]
    cases hbusy : svc.engine.hasUnfinished s with
    | false =>
      rw [Engine.work_idle hbusy]
      exact quiet_pure [] w₁
    | true =>
      have htick := ends_tick svc.engine h₁
      apply (quiet_tick _).bind_shows htick
      intro w₂ h₂
      cases hstep : svc.engine.step s with
      | mk answer s' =>
        rw [hstep] at h₂
        cases answer with
        | error reason =>
          rw [Engine.work_succ_error hbusy hstep]
          exact quiet_fail _ w₂
        | ok updates =>
          rw [Engine.work_succ_ok hbusy hstep]
          simp only [Work.finished, List.flatten_cons, List.filter_append, TokenTotals.updates_append, List.map_append]
          apply (reportFinished_shows sink _ totals w₂).bind (reportFinished_ends sink _ totals h₂)
          intro w₃ h₃
          exact (ih _ h₃).before_quiet fun _ => quiet_pure _

/-- A drain is one phase, closed whatever came of the work. -/
theorem drain_shows (svc : Service σ) (ticks : Nat) (sink : ProgressSink τ) (hw : w.core = ⟨s, c, d⟩) :
    (svc.drain ticks sink).Shows sink w
      (ProgressPhase.drain (svc.engine.numUnfinished s) (svc.engine.work ticks s).finished).events := by
  apply quiet_get.bind_shows (ends_get hw)
  intro w₁ h₁
  rw [show w.engine = s from congrArg Core.engine hw]
  apply (quiet_log _ _).bind_shows (ends_log _ _ h₁)
  intro w₂ h₂
  apply report_shows h₂
  intro w₃ h₃
  apply report_shows h₃
  intro w₄ h₄
  apply (svc.collect_shows sink ticks {} h₄).settle.bind (svc.collect_ends sink ticks {} h₄).settle
  intro w₅ _
  exact (shows_report sink w₅ _).before_quiet fun _ => (quiet_resume _).bind fun _ => quiet_pure _

/-- A batch reports nothing if it does not pass its checks, and otherwise one phase or two. -/
theorem runBatch_shows (svc : Service σ) (ticks : Nat) (batch : Batch) (sink : ProgressSink τ) {core : Core σ}
    (hw : w.core = core) :
    (svc.runBatch ticks batch sink).Shows sink w
      (shownAfter (batch.prepare svc.model) fun pending =>
        (svc.pendingPhases ticks pending core).flatMap (·.events)) := by
  cases hprepare : batch.prepare svc.model with
  | error e => exact ((quiet_check _).shows sink w).bind_error (ends_check_error hprepare hw)
  | ok pending =>
    apply (quiet_check _).bind_shows (ends_check_ok hprepare hw)
    intro w₁ h₁
    have hends := svc.submit_ends sink pending h₁
    have hsubmit := svc.submit_shows sink pending h₁
    simp only [shownAfter, pendingPhases]
    cases hrefusal : (svc.engine.offerAll (core.counter.number pending) core.engine).refusal with
    | some reason =>
      simp only [Offering.result, hrefusal] at hends
      simpa using hsubmit.bind_error hends
    | none =>
      simp only [Offering.result, hrefusal] at hends
      simpa using hsubmit.bind hends fun w₂ h₂ => svc.drain_shows ticks sink h₂

end Service

end BatchInference
