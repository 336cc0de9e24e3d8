import BatchInference.Proofs.Engine.Work

/-!
Stretches of an engine's life: requests that it takes one after another, and steps that it takes one after another
while it has unfinished requests. An offering is a stretch of requests up to the first that is refused, and work is
a stretch of steps up to the moment when the engine is idle, fails, or may not go on.
-/

namespace BatchInference.Engine

variable {σ : Type} {e : Engine σ} {s mid last : σ}

/-- The engine takes the requests one after another. -/
inductive Takes (e : Engine σ) : σ → List Request → σ → Prop
  | none {s : σ} : e.Takes s [] s
  | next {s mid last : σ} {r : Request} {rs : List Request} :
    e.submit s r = (.ok (), mid) → e.Takes mid rs last → e.Takes s (r :: rs) last

/-- The engine takes the requests before the one in place `k` and refuses that one. -/
structure RefusesFirst (e : Engine σ) (s : σ) (requests : List Request) (k : Nat) (r : Request) (reason : String)
    (last : σ) : Prop where
  there : requests[k]? = some r
  refused : ∃ mid, e.Takes s (requests.take k) mid ∧ e.submit mid r = (.error reason, last)

/-- The engine works step after step, each of which finds it with unfinished requests; and what each step reports. -/
inductive Works (e : Engine σ) : σ → List (List Update) → σ → Prop
  | none {s : σ} : e.Works s [] s
  | next {s mid last : σ} {updates : List Update} {reports : List (List Update)} :
    e.hasUnfinished s = true → e.step s = (.ok updates, mid) → e.Works mid reports last →
      e.Works s (updates :: reports) last

/-- A relation of an engine's state and the requests it holds, which every request that is accepted joins and no
other does. -/
structure Holding (e : Engine σ) (holds : σ → List Request → Prop) : Prop where
  accepted {s s' : σ} {rs : List Request} {r : Request} :
    holds s rs → e.submit s r = (.ok (), s') → holds s' (rs ++ [r])
  refused {s s' : σ} {rs : List Request} {r : Request} {reason : String} :
    holds s rs → e.submit s r = (.error reason, s') → holds s' rs

/-! Offering what is taken, and more after it. -/

section Takes

variable {rs more : List Request}

theorem Takes.offerAll_append (h : e.Takes s rs mid) (more : List Request) :
    e.offerAll (rs ++ more) s = { e.offerAll more mid with offers := rs.length + (e.offerAll more mid).offers } := by
  induction h with
  | none => simp
  | next hsubmit _ ih =>
    rw [List.cons_append, offerAll_cons_ok hsubmit, ih, List.length_cons]
    simp only [Offering.mk.injEq, true_and, and_true]
    omega

theorem Takes.offerAll (h : e.Takes s rs last) : e.offerAll rs s = ⟨.none, rs.length, last⟩ := by
  have hall := h.offerAll_append []
  rwa [List.append_nil] at hall

theorem RefusesFirst.eq_append {requests : List Request} {k : Nat} {r : Request} {reason : String}
    (h : e.RefusesFirst s requests k r reason last) :
    requests = requests.take k ++ r :: requests.drop (k + 1) ∧ (requests.take k).length = k := by
  obtain ⟨hlt, rfl⟩ := List.getElem?_eq_some_iff.mp h.there
  rw [← List.drop_eq_getElem_cons hlt, List.take_append_drop, List.length_take]
  exact ⟨rfl, Nat.min_eq_left (Nat.le_of_lt hlt)⟩

theorem RefusesFirst.offerAll {requests : List Request} {k : Nat} {r : Request} {reason : String}
    (h : e.RefusesFirst s requests k r reason last) : e.offerAll requests s = ⟨some reason, k + 1, last⟩ := by
  obtain ⟨heq, hlength⟩ := h.eq_append
  obtain ⟨mid, htakes, hsubmit⟩ := h.refused
  rw [heq, htakes.offerAll_append, offerAll_cons_error hsubmit, hlength]

/-- Requests are all taken, or one of them is the first that is refused. -/
theorem takes_or_refusesFirst (e : Engine σ) (requests : List Request) (s : σ) :
    (∃ last, e.Takes s requests last) ∨ ∃ k r reason last, e.RefusesFirst s requests k r reason last := by
  induction requests generalizing s with
  | nil => exact .inl ⟨s, .none⟩
  | cons r rest ih =>
    cases hsubmit : e.submit s r with
    | mk answer s' =>
      cases answer with
      | error reason => exact .inr ⟨0, r, reason, s', rfl, s, .none, hsubmit⟩
      | ok =>
        rcases ih s' with ⟨last, hrest⟩ | ⟨k, r', reason, last, hplace, mid, htakes, hrefused⟩
        · exact .inl ⟨last, .next hsubmit hrest⟩
        · exact .inr ⟨k + 1, r', reason, last, hplace, mid, .next hsubmit htakes, hrefused⟩

theorem Takes.holds {holds : σ → List Request → Prop} (h : e.Takes s rs last) (hholding : e.Holding holds)
    {before : List Request} (hbefore : holds s before) : holds last (before ++ rs) := by
  induction h generalizing before with
  | none => simpa using hbefore
  | next hsubmit _ ih => simpa using ih (hholding.accepted hbefore hsubmit)

/-- What is refused is not held. -/
theorem RefusesFirst.holds {requests : List Request} {k : Nat} {r : Request} {reason : String}
    (h : e.RefusesFirst s requests k r reason last) {holds : σ → List Request → Prop} (hholding : e.Holding holds)
    {before : List Request} (hbefore : holds s before) : holds last (before ++ requests.take k) := by
  obtain ⟨mid, htakes, hsubmit⟩ := h.refused
  exact hholding.refused (htakes.holds hholding hbefore) hsubmit

end Takes

/-! Working on from where a stretch of work ends. -/

section Works

variable {reports : List (List Update)}

theorem Works.work_add (h : e.Works s reports mid) (ticks : Nat) :
    e.work (reports.length + ticks) s = { e.work ticks mid with reports := reports ++ (e.work ticks mid).reports } := by
  induction h with
  | none => simp
  | next hbusy hstep _ ih =>
    rw [List.length_cons, Nat.add_right_comm, work_succ_ok hbusy hstep, ih]
    rfl

theorem Works.work_idle (h : e.Works s reports last) (hidle : e.hasUnfinished last = false) {ticks : Nat}
    (hticks : reports.length ≤ ticks) : e.work ticks s = ⟨reports, .none, last⟩ := by
  obtain ⟨more, rfl⟩ := Nat.exists_eq_add_of_le hticks
  rw [h.work_add, Engine.work_idle hidle, List.append_nil]

theorem Works.work_failed (h : e.Works s reports mid) (hbusy : e.hasUnfinished mid = true) {reason : String}
    (hstep : e.step mid = (.error reason, last)) {ticks : Nat} (hticks : reports.length < ticks) :
    e.work ticks s = ⟨reports, some (.failed (.engine (.reported reason))), last⟩ := by
  obtain ⟨more, rfl⟩ := Nat.exists_eq_add_of_lt hticks
  rw [Nat.add_assoc, h.work_add, work_succ_error hbusy hstep, List.append_nil]

theorem Works.work_stopped (h : e.Works s reports last) (hbusy : e.hasUnfinished last = true) :
    e.work reports.length s = ⟨reports, some .outOfTicks, last⟩ := by
  have hstopped := h.work_add 0
  rwa [work_zero hbusy, List.append_nil] at hstopped

/-- However work is limited, it is a stretch that ends because the engine is idle, because its next step fails, or
because no tick is left. -/
theorem exists_works (e : Engine σ) (ticks : Nat) (s : σ) :
    ∃ reports mid, e.Works s reports mid ∧
      ((e.hasUnfinished mid = false ∧ reports.length ≤ ticks) ∨
        (e.hasUnfinished mid = true ∧ reports.length < ticks ∧ ∃ reason last, e.step mid = (.error reason, last)) ∨
        (e.hasUnfinished mid = true ∧ reports.length = ticks)) := by
  induction ticks, s using Engine.work.induct e with
  | case1 s hbusy => exact ⟨[], s, .none, .inr (.inr ⟨hbusy, rfl⟩)⟩
  | case2 s hbusy ticks reason s' hstep =>
    exact ⟨[], s, .none, .inr (.inl ⟨hbusy, Nat.succ_pos ticks, reason, s', hstep⟩)⟩
  | case3 s hbusy ticks updates s' hstep ih =>
    obtain ⟨reports, mid, hworks, hend⟩ := ih
    refine ⟨updates :: reports, mid, .next hbusy hstep hworks, ?_⟩
    simpa only [List.length_cons, Nat.succ_eq_add_one, Nat.add_le_add_iff_right, Nat.add_lt_add_iff_right,
      Nat.add_right_cancel_iff] using hend
  | case4 ticks s hidle => exact ⟨[], s, .none, .inl ⟨eq_false_of_ne_true hidle, Nat.zero_le ticks⟩⟩

end Works

end BatchInference.Engine
