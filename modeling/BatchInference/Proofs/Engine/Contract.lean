import BatchInference.Proofs.Batch.Prepare
import BatchInference.Proofs.Engine.Stretches

/-!
What engines promise. An engine keeps every request it accepted until it reports it finished, once; a reliable
one moreover never fails and comes to the end of what it holds. Which requests an engine still owes a report is
a relation of its state and a list, so that schedules of every kind fit, and the list is read without its order.
Neither promise says anything about unfinished updates, which may come on any request at any time.
-/

namespace BatchInference

def Update.IsOn (r : Request) (u : Update) : Prop := u.id = r.id

/-- An update on a request that is of the kind the request asks for. -/
def Update.Answers (r : Request) (u : Update) : Prop := u.id = r.id ∧ u.sort = r.params.sort

namespace Engine

variable {σ : Type}

/-- The state after so many steps, whatever they report. -/
def after (e : Engine σ) : Nat → σ → σ
  | 0, s => s
  | k + 1, s => e.after k (e.step s).2

/-- An engine that keeps what it accepted: each request it owes is reported finished by one update that answers
it, and is owed until then. Refused requests are not owed, and a step that fails reports nothing. -/
structure Keeps (e : Engine σ) (answers : Request → Update → Prop) (owes : σ → List Request → Prop) : Prop where
  accepted {s s' : σ} {rs : List Request} {r : Request} :
    owes s rs → e.submit s r = (.ok (), s') → owes s' (rs ++ [r])
  refused {s s' : σ} {rs : List Request} {r : Request} {reason : String} :
    owes s rs → e.submit s r = (.error reason, s') → owes s' rs
  stepped {s s' : σ} {rs : List Request} {us : List Update} :
    owes s rs → e.step s = (.ok us, s') →
      ∃ done rest, rs.Perm (done ++ rest) ∧ List.Forall₂ answers done (us.filter (·.finished)) ∧ owes s' rest
  failed {s s' : σ} {rs : List Request} {reason : String} :
    owes s rs → e.step s = (.error reason, s') → owes s' rs
  idle_iff {s : σ} {rs : List Request} : owes s rs → (e.hasUnfinished s = false ↔ rs = [])

/-- An engine that keeps what it accepted, never fails, and is done after some number of steps if it is given
nothing more. -/
structure Reliable (e : Engine σ) (answers : Request → Update → Prop) (owes : σ → List Request → Prop) : Prop
    extends e.Keeps answers owes where
  accepts {s : σ} {rs : List Request} (r : Request) : owes s rs → (e.submit s r).1 = .ok ()
  steps {s : σ} {rs : List Request} : owes s rs → ∃ us, (e.step s).1 = .ok us
  finishes {s : σ} {rs : List Request} : owes s rs → ∃ k, owes (e.after k s) []

variable {e : Engine σ} {answers : Request → Update → Prop} {owes : σ → List Request → Prop} {s : σ}
  {rs : List Request}

/-- An engine that keeps what it accepted holds what it owes. -/
theorem Keeps.holding (h : e.Keeps answers owes) : e.Holding owes where
  accepted := h.accepted
  refused := h.refused

/-- Whatever comes of an offering, the engine goes on keeping what it owes. -/
theorem Keeps.offerAll (h : e.Keeps answers owes) (howes : owes s rs) (requests : List Request) :
    ∃ rs', owes (e.offerAll requests s).engine rs' := by
  rcases e.takes_or_refusesFirst requests s with ⟨last, htakes⟩ | ⟨k, r, reason, last, hrefuses⟩
  · rw [htakes.offerAll]
    exact ⟨_, htakes.holds h.holding howes⟩
  · rw [hrefuses.offerAll]
    exact ⟨_, hrefuses.holds h.holding howes⟩

/-- Requests that were all accepted are owed beside those owed before. -/
theorem Keeps.offerAll_accepted (h : e.Keeps answers owes) (howes : owes s rs) {requests : List Request}
    (haccepted : (e.offerAll requests s).refusal = none) : owes (e.offerAll requests s).engine (rs ++ requests) := by
  rcases e.takes_or_refusesFirst requests s with ⟨last, htakes⟩ | ⟨k, r, reason, last, hrefuses⟩
  · rw [htakes.offerAll]
    exact htakes.holds h.holding howes
  · rw [hrefuses.offerAll] at haccepted
    cases haccepted

/-- However the work ends, what was owed splits into what was reported finished and what is still owed. -/
theorem Keeps.work (h : e.Keeps answers owes) (howes : owes s rs) (ticks : Nat) :
    ∃ done rest, rs.Perm (done ++ rest) ∧ List.Forall₂ answers done (e.work ticks s).finished ∧
      owes (e.work ticks s).engine rest := by
  induction ticks, s using Engine.work.induct e generalizing rs with
  | case1 s hbusy =>
    rw [work_zero hbusy]
    exact ⟨[], rs, .refl _, .nil, howes⟩
  | case2 s hbusy ticks reason s' hstep =>
    rw [work_succ_error hbusy hstep]
    exact ⟨[], rs, .refl _, .nil, h.failed howes hstep⟩
  | case3 s hbusy ticks updates s' hstep ih =>
    obtain ⟨done, rest, hperm, hdone, hrest⟩ := h.stepped howes hstep
    obtain ⟨done', rest', hperm', hdone', hrest'⟩ := ih hrest
    rw [work_succ_ok hbusy hstep]
    refine ⟨done ++ done', rest', ?_, ?_, hrest'⟩
    · rw [List.append_assoc]
      exact hperm.trans (hperm'.append_left done)
    · rw [Work.finished, List.flatten_cons, List.filter_append]
      exact List.rel_append hdone hdone'
  | case4 ticks s hidle =>
    rw [work_idle (eq_false_of_ne_true hidle)]
    exact ⟨[], rs, .refl _, .nil, howes⟩

/-- Work that is done has reported everything that was owed. -/
theorem Keeps.work_done (h : e.Keeps answers owes) (howes : owes s rs) {ticks : Nat}
    (hhalt : (e.work ticks s).halt = none) :
    ∃ done, done.Perm rs ∧ List.Forall₂ answers done (e.work ticks s).finished ∧
      owes (e.work ticks s).engine [] := by
  obtain ⟨done, rest, hperm, hdone, hrest⟩ := h.work howes ticks
  have hnil : rest = [] := (h.idle_iff hrest).mp (idle_of_work_done hhalt)
  subst hnil
  rw [List.append_nil] at hperm
  exact ⟨done, hperm.symm, hdone, hrest⟩

theorem Reliable.offerAll_accepted (h : e.Reliable answers owes) (howes : owes s rs) (requests : List Request) :
    (e.offerAll requests s).refusal = none := by
  rcases e.takes_or_refusesFirst requests s with ⟨last, htakes⟩ | ⟨k, r, reason, last, hrefuses⟩
  · rw [htakes.offerAll]
  · obtain ⟨mid, htakes, hsubmit⟩ := hrefuses.refused
    have haccepts := h.accepts r (htakes.holds h.holding howes)
    rw [hsubmit] at haccepts
    cases haccepts

theorem Reliable.work_done_of_after (h : e.Reliable answers owes) (howes : owes s rs) {k : Nat}
    (hk : owes (e.after k s) []) : (e.work k s).halt = none := by
  induction k, s using Engine.work.induct e generalizing rs with
  | case1 s hbusy =>
    have hidle : e.hasUnfinished s = false := (h.idle_iff hk).mpr rfl
    rw [hbusy] at hidle
    cases hidle
  | case2 s hbusy k reason s' hstep =>
    obtain ⟨us, hus⟩ := h.steps howes
    rw [hstep] at hus
    cases hus
  | case3 s hbusy k updates s' hstep ih =>
    obtain ⟨_, rest, _, _, hrest⟩ := h.stepped howes hstep
    have hk' : owes (e.after k s') [] := by
      simpa only [after, hstep] using hk
    rw [work_succ_ok hbusy hstep]
    exact ih hrest hk'
  | case4 k s hidle => rw [work_idle (eq_false_of_ne_true hidle)]

theorem Reliable.exists_work_done (h : e.Reliable answers owes) (howes : owes s rs) :
    ∃ enough, (e.work enough s).halt = none := by
  obtain ⟨k, hk⟩ := h.finishes howes
  exact ⟨k, h.work_done_of_after howes hk⟩

end Engine

end BatchInference
