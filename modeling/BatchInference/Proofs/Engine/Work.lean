import BatchInference.Run

/-!
An engine by itself: how it takes a list of requests that is offered one by one, and how it works until it is
idle. Both stop at the engine's first failure.
-/

namespace BatchInference

variable {σ : Type}

/-- What came of offering requests. -/
structure Offering (σ : Type) where
  /-- The engine's reason, if it refused one. It is then offered no more. -/
  refusal : Option String
  /-- How many requests were offered, the refused one included. -/
  offers : Nat
  engine : σ

/-- What came of stepping an engine. -/
structure Work (σ : Type) where
  reports : List (List Update)
  /-- Why the work ended before the engine was idle. -/
  halt : Option Halt
  engine : σ

namespace Work

def finished (k : Work σ) : List Update := k.reports.flatten.filter (·.finished)

def finishedFor (k : Work σ) (id : RequestId) : List Update := k.finished.filter (·.id = id)

end Work

namespace Engine

/-- Offers requests in order, up to the first one that is refused. -/
def offerAll (e : Engine σ) : List Request → σ → Offering σ
  | [], s => ⟨none, 0, s⟩
  | r :: rest, s =>
    match e.submit s r with
    | (.ok (), s) => { e.offerAll rest s with offers := (e.offerAll rest s).offers + 1 }
    | (.error reason, s) => ⟨some reason, 1, s⟩

/-- Steps the engine for as long as it has unfinished requests, at most `ticks` times. -/
def work (e : Engine σ) : (ticks : Nat) → σ → Work σ
  | ticks, s =>
    if e.hasUnfinished s then
      match ticks with
      | 0 => ⟨[], some .outOfTicks, s⟩
      | ticks + 1 =>
        match e.step s with
        | (.error reason, s) => ⟨[], some (.failed (.engine (.reported reason))), s⟩
        | (.ok updates, s) => { e.work ticks s with reports := updates :: (e.work ticks s).reports }
    else ⟨[], none, s⟩

variable {e : Engine σ} {s s' : σ}

theorem offerAll_cons_ok {r : Request} {rest : List Request} (h : e.submit s r = (.ok (), s')) :
    e.offerAll (r :: rest) s = { e.offerAll rest s' with offers := (e.offerAll rest s').offers + 1 } := by
  simp only [offerAll, h]

theorem offerAll_cons_error {r : Request} {rest : List Request} {reason : String}
    (h : e.submit s r = (.error reason, s')) : e.offerAll (r :: rest) s = ⟨some reason, 1, s'⟩ := by
  simp only [offerAll, h]

theorem offers_of_accepted {rs : List Request} (h : (e.offerAll rs s).refusal = none) :
    (e.offerAll rs s).offers = rs.length := by
  fun_induction e.offerAll rs s with
  | case1 s => rfl
  | case2 s r rest s' hsubmit _ ih => rw [ih h, List.length_cons]
  | case3 s r rest reason s' hsubmit => cases h

theorem offers_le (rs : List Request) (s : σ) : (e.offerAll rs s).offers ≤ rs.length := by
  fun_induction e.offerAll rs s with
  | case1 s => exact Nat.le_refl 0
  | case2 s r rest s' hsubmit _ ih => exact Nat.succ_le_succ ih
  | case3 s r rest reason s' hsubmit => exact Nat.succ_le_succ (Nat.zero_le _)

theorem work_idle {ticks : Nat} (h : e.hasUnfinished s = false) : e.work ticks s = ⟨[], none, s⟩ := by
  unfold work
  simp only [h, Bool.false_eq_true, if_false]

theorem work_zero (h : e.hasUnfinished s = true) : e.work 0 s = ⟨[], some .outOfTicks, s⟩ := by
  unfold work
  simp only [h, if_true]

theorem work_succ_error {ticks : Nat} {reason : String} (h : e.hasUnfinished s = true)
    (hstep : e.step s = (.error reason, s')) :
    e.work (ticks + 1) s = ⟨[], some (.failed (.engine (.reported reason))), s'⟩ := by
  unfold work
  simp only [h, if_true, hstep]

theorem work_succ_ok {ticks : Nat} {updates : List Update} (h : e.hasUnfinished s = true)
    (hstep : e.step s = (.ok updates, s')) :
    e.work (ticks + 1) s = { e.work ticks s' with reports := updates :: (e.work ticks s').reports } := by
  rw [work]
  simp only [h, if_true, hstep]

theorem work_eq_of_le {ticks more : Nat} (h : (e.work ticks s).halt = none) (hle : ticks ≤ more) :
    e.work more s = e.work ticks s := by
  induction ticks, s using work.induct e generalizing more with
  | case1 s hbusy =>
    rw [work_zero hbusy] at h
    cases h
  | case2 s hbusy ticks reason s' hstep =>
    rw [work_succ_error hbusy hstep] at h
    cases h
  | case3 s hbusy ticks updates s' hstep ih =>
    obtain ⟨more, rfl⟩ : ∃ n, more = n + 1 := ⟨more - 1, by omega⟩
    rw [work_succ_ok hbusy hstep] at h ⊢
    rw [work_succ_ok hbusy hstep, ih h (by omega)]
  | case4 ticks s hidle => rw [work_idle (eq_false_of_ne_true hidle), work_idle (eq_false_of_ne_true hidle)]

/-- Work ends early for one of two reasons: a step that fails, or too few ticks. -/
theorem halt_work (e : Engine σ) (ticks : Nat) (s : σ) {h : Halt} (hhalt : (e.work ticks s).halt = some h) :
    h = .outOfTicks ∨ ∃ reason, h = .failed (.engine (.reported reason)) := by
  fun_induction e.work ticks s with
  | case1 s hbusy => exact .inl (Option.some.inj hhalt).symm
  | case2 s hbusy ticks reason s' hstep => exact .inr ⟨reason, (Option.some.inj hhalt).symm⟩
  | case3 s hbusy ticks updates s' hstep _ ih => exact ih hhalt
  | case4 ticks s hidle => cases hhalt

theorem idle_of_work_done {ticks : Nat} (h : (e.work ticks s).halt = none) :
    e.hasUnfinished (e.work ticks s).engine = false := by
  fun_induction e.work ticks s with
  | case1 s hbusy => cases h
  | case2 s hbusy ticks reason s' hstep => cases h
  | case3 s hbusy ticks updates s' hstep _ ih => exact ih h
  | case4 ticks s hidle => exact eq_false_of_ne_true hidle

end Engine

end BatchInference
