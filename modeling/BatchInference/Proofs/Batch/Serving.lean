import BatchInference.Proofs.Batch.Ends
import BatchInference.Proofs.Engine.Contract

/-!
How a reliable engine serves a batch: given enough ticks, every request is answered by one result of its own, and
the results come back in the order of the requests as long as the counter does not come round within the batch.
-/

namespace BatchInference

variable {σ : Type}

theorem Update.filter_id_eq {us : List Update} (hnodup : (us.map (·.id)).Nodup) {u : Update} (hu : u ∈ us) :
    us.filter (·.id = u.id) = [u] := by
  induction us with
  | nil => cases hu
  | cons v rest ih =>
    rw [List.map_cons, List.nodup_cons] at hnodup
    obtain ⟨hv, hrest⟩ := hnodup
    rcases List.mem_cons.mp hu with rfl | hmem
    · have hnone : rest.filter (·.id = u.id) = [] := by
        rw [List.filter_eq_nil_iff]
        intro x hx hid
        apply hv
        rw [← of_decide_eq_true hid]
        exact List.mem_map_of_mem hx
      rw [List.filter_cons_of_pos (by simp), hnone]
    · have hne : v.id ≠ u.id := by
        intro heq
        apply hv
        rw [heq]
        exact List.mem_map_of_mem hmem
      rw [List.filter_cons_of_neg (by simpa using hne)]
      exact ih hrest hmem

namespace Engine

variable {e : Engine σ} {answers : Request → Update → Prop} {owes : σ → List Request → Prop} {s : σ}
  {c : IdCounter} {pending : List PendingRequest}

/-- The results of a batch that a reliable engine was given while idle: they are there after enough ticks and stay
the same after more, one by one they answer the requests in order, and the engine is idle again. -/
theorem Reliable.serves (h : e.Reliable answers owes) (hid : ∀ r u, answers r u → u.id = r.id)
    (hidle : owes s []) (hroom : c.HasRoom pending.length) :
    ∃ (enough : Nat) (work : Work σ), work.halt = none ∧
      (∀ ticks, enough ≤ ticks → e.work ticks (e.offerAll (c.number pending) s).engine = work) ∧
      List.Forall₂ answers (c.number pending) (Update.sorted work.finished) ∧ owes work.engine [] := by
  have haccepted := h.offerAll_accepted hidle (c.number pending)
  have howes := h.toKeeps.offerAll_accepted hidle haccepted
  rw [List.nil_append] at howes
  obtain ⟨enough, hhalt⟩ := h.exists_work_done howes
  obtain ⟨done, hperm, hanswers, hafter⟩ := h.work_done howes hhalt
  refine ⟨enough, _, hhalt, fun ticks hle => work_eq_of_le hhalt hle, ?_, hafter⟩
  apply Update.forall₂_sorted hid ?_ hperm hanswers
  rw [IdCounter.ids_number]
  exact IdCounter.ids_rising hroom

/-- Results that answer the requests of a batch one by one: the result in a request's place is the only finished
update the engine ever reported on the request. -/
theorem finishedFor_of_answers {work : Work σ} (hid : ∀ r u, answers r u → u.id = r.id)
    (hroom : c.HasRoom pending.length)
    (h : List.Forall₂ answers (c.number pending) (Update.sorted work.finished)) {i : Nat} {r : Request}
    {u : Update} (hr : (c.number pending)[i]? = some r) (hu : (Update.sorted work.finished)[i]? = some u) :
    work.finishedFor r.id = [u] := by
  obtain ⟨hi, rfl⟩ := List.getElem?_eq_some_iff.mp hr
  obtain ⟨hi', rfl⟩ := List.getElem?_eq_some_iff.mp hu
  have hsame := hid _ _ ((List.forall₂_iff_get.mp h).2 i hi hi')
  have hids : (Update.sorted work.finished).map (·.id) = c.ids pending.length := by
    rw [← IdCounter.ids_number]
    exact Update.ids_of_answers hid h
  have hnodup : ((Update.sorted work.finished).map (·.id)).Nodup := by
    rw [hids]
    apply (IdCounter.ids_rising hroom).imp
    intro a b hab heq
    exact UInt64.lt_irrefl _ (heq ▸ hab)
  have honly := Update.filter_id_eq hnodup (List.getElem_mem hi')
  have hperm := (Update.sorted_perm work.finished).filter (·.id = (Update.sorted work.finished)[i].id)
  rw [honly] at hperm
  rw [Work.finishedFor]
  simp only [List.get_eq_getElem] at hsame
  rw [← hsame]
  exact List.perm_singleton.mp hperm.symm

/-- The same for all requests of the batch at once. -/
theorem forall₂_finishedFor {work : Work σ} (hid : ∀ r u, answers r u → u.id = r.id) (hroom : c.HasRoom pending.length)
    (h : List.Forall₂ answers (c.number pending) (Update.sorted work.finished)) :
    List.Forall₂ (fun r u => work.finishedFor r.id = [u]) (c.number pending) (Update.sorted work.finished) := by
  refine List.forall₂_iff_get.mpr ⟨h.length_eq, ?_⟩
  intro i hr hu
  exact finishedFor_of_answers hid hroom h (List.getElem?_eq_getElem hr) (List.getElem?_eq_getElem hu)

/-- Updates that answer requests for one kind of output are of that kind. -/
theorem sort_of_answers {us : List Update} {sort : OutputSort} (hsort : ∀ r ∈ pending, r.params.sort = sort)
    (h : List.Forall₂ Update.Answers (c.number pending) us) : ∀ u ∈ us, u.sort = sort := by
  intro u hu
  obtain ⟨i, hi, rfl⟩ := List.getElem_of_mem hu
  have hir : i < (c.number pending).length := h.length_eq ▸ hi
  have hanswer := ((List.forall₂_iff_get.mp h).2 i hir hi).2
  simp only [List.get_eq_getElem] at hanswer
  rw [hanswer]
  exact hsort _ (IdCounter.mem_of_mem_number (List.getElem_mem hir))

end Engine

end BatchInference
