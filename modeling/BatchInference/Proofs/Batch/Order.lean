import Mathlib.Algebra.Order.BigOperators.Group.List
import Mathlib.Data.List.Forall2
import Mathlib.Data.List.Nodup
import BatchInference.Batch.Results

/-!
Ids and the order they stand for. A batch gets its ids one after another from a counter of one word, and results
are put back into the order of the batch by sorting them by id. This restores the order exactly when the ids of
the results are those of the batch, each once, and the counter does not come round within the batch.
-/

namespace BatchInference

namespace IdCounter

def skip (c : IdCounter) (n : Nat) : IdCounter := ⟨c.next + UInt64.ofNat n⟩

def ids (c : IdCounter) (n : Nat) : List RequestId := (List.range n).map fun i => (c.skip i).peek

/-- The next `n` ids can be drawn before the counter comes round. -/
def HasRoom (c : IdCounter) (n : Nat) : Prop := c.next.toNat + n ≤ 2 ^ 64

instance (c : IdCounter) (n : Nat) : Decidable (c.HasRoom n) := inferInstanceAs (Decidable (_ ≤ _))

/-- Pending requests with the ids they get from the counter. -/
def number (c : IdCounter) : List PendingRequest → List Request
  | [] => []
  | p :: rest => p.withId c.peek :: number c.draw.2 rest

@[simp]
theorem skip_zero (c : IdCounter) : c.skip 0 = c := by simp [skip]

theorem skip_draw (c : IdCounter) (n : Nat) : c.draw.2.skip n = c.skip (n + 1) := by
  simp only [skip, draw, mk.injEq, UInt64.ofNat_add, UInt64.add_assoc]
  rw [UInt64.add_comm 1]
  rfl

theorem skip_skip (c : IdCounter) (m n : Nat) : (c.skip m).skip n = c.skip (m + n) := by
  simp only [skip, UInt64.ofNat_add, UInt64.add_assoc]

theorem toNat_skip (c : IdCounter) (n : Nat) : (c.skip n).next.toNat = (c.next.toNat + n) % 2 ^ 64 := by
  simp [skip, UInt64.toNat_add]

@[simp]
theorem length_ids (c : IdCounter) (n : Nat) : (c.ids n).length = n := by simp [ids]

@[simp]
theorem length_number (c : IdCounter) (ps : List PendingRequest) : (c.number ps).length = ps.length := by
  induction ps generalizing c with
  | nil => rfl
  | cons p rest ih => simp only [number, List.length_cons, ih]

theorem getElem_ids (c : IdCounter) {n i : Nat} (h : i < (c.ids n).length) : (c.ids n)[i] = (c.skip i).peek := by
  simp [ids]

theorem ids_succ (c : IdCounter) (n : Nat) : c.ids (n + 1) = c.peek :: c.draw.2.ids n := by
  simp only [ids, List.range_succ_eq_map, List.map_cons, List.map_map, skip_zero]
  congr 2
  funext i
  exact congrArg peek (c.skip_draw i).symm

/-- What is drawn after the first ids is drawn by the counter that they leave. -/
theorem ids_add (c : IdCounter) (m n : Nat) : c.ids (m + n) = c.ids m ++ (c.skip m).ids n := by
  simp only [ids, List.range_add, List.map_append, List.map_map, skip_skip]
  rfl

/-- A counter gives no id twice before it comes round. -/
theorem nodup_ids (c : IdCounter) {n : Nat} (hn : n ≤ 2 ^ 64) : (c.ids n).Nodup := by
  refine List.nodup_range.map_on ?_
  intro i hi j hj heq
  rw [List.mem_range] at hi hj
  have hnext : (c.skip i).next.toNat = (c.skip j).next.toNat :=
    congrArg (fun id : RequestId => id.value.toNat) heq
  rw [toNat_skip, toNat_skip] at hnext
  omega

theorem ids_number (c : IdCounter) (ps : List PendingRequest) : (c.number ps).map (·.id) = c.ids ps.length := by
  induction ps generalizing c with
  | nil => rfl
  | cons p rest ih =>
    rw [List.length_cons, ids_succ, ← ih]
    rfl

theorem number_take (c : IdCounter) (ps : List PendingRequest) (n : Nat) :
    c.number (ps.take n) = (c.number ps).take n := by
  induction ps generalizing c n with
  | nil => simp [number]
  | cons p rest ih =>
    cases n with
    | zero => rfl
    | succ n => simp only [List.take_succ_cons, number, ih]

theorem toPendingRequest_number (c : IdCounter) (ps : List PendingRequest) :
    (c.number ps).map (·.toPendingRequest) = ps := by
  induction ps generalizing c with
  | nil => rfl
  | cons p rest ih => simp only [number, List.map_cons, ih, PendingRequest.toPendingRequest_withId]

theorem prompts_number (c : IdCounter) (ps : List PendingRequest) :
    (c.number ps).map (·.prompt) = ps.map (·.prompt) := by
  conv => rhs; rw [← c.toPendingRequest_number ps, List.map_map]
  rfl

theorem mem_of_mem_number {c : IdCounter} {ps : List PendingRequest} {r : Request} (h : r ∈ c.number ps) :
    r.toPendingRequest ∈ ps := by
  rw [← c.toPendingRequest_number ps]
  exact List.mem_map_of_mem h

/-- Ids drawn before the counter comes round rise strictly. -/
theorem ids_rising {c : IdCounter} {n : Nat} (h : c.HasRoom n) :
    (c.ids n).Pairwise fun a b => a.value < b.value := by
  simp only [ids, List.pairwise_map]
  apply List.pairwise_lt_range.imp_of_mem
  intro i j hi hj hij
  have hi' := List.mem_range.mp hi
  have hj' := List.mem_range.mp hj
  simp only [peek, UInt64.lt_iff_toNat_lt, toNat_skip]
  unfold HasRoom at h
  omega

/-- When the counter comes round, an id is followed by a smaller one. -/
theorem hasRoom_of_sorted {c : IdCounter} {n : Nat} (h : (c.ids n).Pairwise fun a b => a.value ≤ b.value) :
    c.HasRoom n := by
  by_contra hround
  unfold HasRoom at hround
  have hlt := c.next.toNat_lt
  -- the last id there is, and the one drawn after it
  have hpair := List.pairwise_iff_getElem.mp h (2 ^ 64 - 1 - c.next.toNat) (2 ^ 64 - c.next.toNat)
    (by simp; omega) (by simp; omega) (by omega)
  simp only [getElem_ids, peek, UInt64.le_iff_toNat_le, toNat_skip] at hpair
  omega

end IdCounter

namespace Update

theorem sorted_perm (us : List Update) : (sorted us).Perm us := List.mergeSort_perm _ _

@[simp]
theorem length_sorted (us : List Update) : (sorted us).length = us.length := (sorted_perm us).length_eq

private theorem id_le_trans (a b c : Update) (hab : a.id.le b.id = true) (hbc : b.id.le c.id = true) :
    a.id.le c.id = true := by
  simp only [RequestId.le, decide_eq_true_eq] at *
  exact UInt64.le_trans hab hbc

private theorem id_le_total (a b : Update) : (a.id.le b.id || b.id.le a.id) = true := by
  simp only [RequestId.le, Bool.or_eq_true, decide_eq_true_eq]
  exact UInt64.le_total _ _

theorem pairwise_sorted (us : List Update) : ((sorted us).map (·.id)).Pairwise fun a b => a.value ≤ b.value := by
  rw [List.pairwise_map]
  have h := List.pairwise_mergeSort id_le_trans id_le_total us
  exact h.imp fun hab => by simpa only [RequestId.le, decide_eq_true_eq] using hab

theorem ids_sorted_of_perm {us : List Update} {ids : List RequestId} (hperm : (us.map (·.id)).Perm ids)
    (hrising : ids.Pairwise fun a b => a.value ≤ b.value) : (sorted us).map (·.id) = ids := by
  have hsorted : ((sorted us).map (·.id)).Perm ids := ((sorted_perm us).map _).trans hperm
  refine hsorted.eq_of_pairwise ?_ (pairwise_sorted us) hrising
  intro a b _ _ hab hba
  exact congrArg RequestId.mk (UInt64.le_antisymm hab hba)

/-- Sorting by id restores the order of a batch exactly when every id of the batch was reported once and no other
was, and the ids did not come round. -/
theorem ids_sorted_eq_iff {us : List Update} {c : IdCounter} {n : Nat} :
    (sorted us).map (·.id) = c.ids n ↔ (us.map (·.id)).Perm (c.ids n) ∧ c.HasRoom n := by
  constructor
  · intro h
    refine ⟨?_, IdCounter.hasRoom_of_sorted (h ▸ pairwise_sorted us)⟩
    rw [← h]
    exact ((sorted_perm us).map _).symm
  · rintro ⟨hperm, hroom⟩
    exact ids_sorted_of_perm hperm ((IdCounter.ids_rising hroom).imp UInt64.le_of_lt)

/-- Sorted by id, with those of one request left in the order in which they came. -/
structure SortsStably (arrived us : List Update) : Prop where
  rising : (us.map (·.id)).Pairwise fun a b => a.value ≤ b.value
  stable : ∀ id, us.filter (·.id = id) = arrived.filter (·.id = id)

theorem sortsStably_sorted (us : List Update) : SortsStably us (sorted us) where
  rising := pairwise_sorted us
  stable := by
    intro id
    have hsame : (us.filter (·.id = id)).Pairwise fun a b => a.id.le b.id = true := by
      refine List.pairwise_of_forall_mem_list ?_
      intro a ha b hb
      rw [List.mem_filter, decide_eq_true_eq] at ha hb
      simp [ha.2, hb.2, RequestId.le]
    have hsub : (us.filter (·.id = id)).Sublist (sorted us) :=
      List.sublist_mergeSort id_le_trans id_le_total hsame List.filter_sublist
    have hfiltered : (us.filter (·.id = id)).Sublist ((sorted us).filter (·.id = id)) := by
      simpa only [List.filter_filter, Bool.and_self] using hsub.filter (·.id = id)
    exact (hfiltered.eq_of_length ((sorted_perm us).filter _).length_eq.symm).symm

private theorem id_le_of_mem_cons {u v : Update} {us : List Update}
    (hrising : ((u :: us).map (·.id)).Pairwise fun a b => a.value ≤ b.value) (hv : v ∈ u :: us) :
    u.id.value ≤ v.id.value := by
  rw [List.map_cons, List.pairwise_cons] at hrising
  rcases List.mem_cons.mp hv with rfl | hv
  · exact UInt64.le_refl _
  · exact hrising.1 _ (List.mem_map_of_mem hv)

private theorem mem_iff_of_filter_eq {us vs : List Update}
    (h : ∀ id, us.filter (·.id = id) = vs.filter (·.id = id)) (u : Update) : u ∈ us ↔ u ∈ vs := by
  have hmem := congrArg (u ∈ ·) (h u.id)
  simpa only [List.mem_filter, decide_true, and_true, eq_iff_iff] using hmem

/-- Two sorted lists that agree on each id are the same. -/
private theorem eq_of_filter_eq {us vs : List Update} (hus : (us.map (·.id)).Pairwise fun a b => a.value ≤ b.value)
    (hvs : (vs.map (·.id)).Pairwise fun a b => a.value ≤ b.value)
    (hfilter : ∀ id, us.filter (·.id = id) = vs.filter (·.id = id)) : us = vs := by
  have hmem := mem_iff_of_filter_eq hfilter
  induction us generalizing vs with
  | nil =>
    cases vs with
    | nil => rfl
    | cons v vs => exact absurd ((hmem v).mpr List.mem_cons_self) List.not_mem_nil
  | cons u us ih =>
    cases vs with
    | nil => exact absurd ((hmem u).mp List.mem_cons_self) List.not_mem_nil
    | cons v vs =>
      -- each head has the smallest id of its list, and the lists have the same members
      have hid : u.id = v.id := by
        have huv := id_le_of_mem_cons hus ((hmem v).mpr List.mem_cons_self)
        have hvu := id_le_of_mem_cons hvs ((hmem u).mp List.mem_cons_self)
        exact congrArg RequestId.mk (UInt64.le_antisymm huv hvu)
      have hhead := hfilter v.id
      simp only [List.filter_cons, hid, decide_true, if_true, List.cons.injEq] at hhead
      obtain ⟨rfl, -⟩ := hhead
      have htails (id : RequestId) : us.filter (·.id = id) = vs.filter (·.id = id) := by
        have h := hfilter id
        simp only [List.filter_cons] at h
        split at h
        · exact (List.cons.inj h).2
        · exact h
      rw [ih (List.pairwise_cons.mp hus).2 (List.pairwise_cons.mp hvs).2 htails (mem_iff_of_filter_eq htails)]

/-- There is only one way to sort updates stably. -/
theorem SortsStably.unique {arrived us vs : List Update} (hus : SortsStably arrived us)
    (hvs : SortsStably arrived vs) : us = vs :=
  eq_of_filter_eq hus.rising hvs.rising fun id => (hus.stable id).trans (hvs.stable id).symm

/-- Rising ids name one request each. -/
theorem eq_of_id_eq {requests : List Request}
    (hrising : (requests.map (·.id)).Pairwise fun a b => a.value < b.value) {r r' : Request}
    (hr : r ∈ requests) (hr' : r' ∈ requests) (h : r.id = r'.id) : r = r' := by
  have hnodup : (requests.map (·.id)).Nodup := by
    apply hrising.imp
    intro a b hab heq
    exact UInt64.lt_irrefl _ (heq ▸ hab)
  exact List.inj_on_of_nodup_map hnodup hr hr' h

theorem ids_of_answers {answers : Request → Update → Prop} (hid : ∀ r u, answers r u → u.id = r.id)
    {requests : List Request} {us : List Update} (h : List.Forall₂ answers requests us) :
    us.map (·.id) = requests.map (·.id) := by
  induction h with
  | nil => rfl
  | cons hru _ ih => rw [List.map_cons, List.map_cons, ih, hid _ _ hru]

/-- Results that answer the requests of a batch in any order answer them one by one once they are sorted. -/
theorem forall₂_sorted {answers : Request → Update → Prop} (hid : ∀ r u, answers r u → u.id = r.id)
    {requests done : List Request} {us : List Update}
    (hrising : (requests.map (·.id)).Pairwise fun a b => a.value < b.value) (hdone : done.Perm requests)
    (h : List.Forall₂ answers done us) : List.Forall₂ answers requests (sorted us) := by
  have hids : us.map (·.id) = done.map (·.id) := ids_of_answers hid h
  have hsorted : (sorted us).map (·.id) = requests.map (·.id) :=
    ids_sorted_of_perm (hids ▸ hdone.map _) (hrising.imp UInt64.le_of_lt)
  have hlength : requests.length = (sorted us).length := by
    simpa only [List.length_map] using (congrArg List.length hsorted).symm
  refine List.forall₂_iff_get.mpr ⟨hlength, ?_⟩
  intro i hr hu
  have hmem : (sorted us).get ⟨i, hu⟩ ∈ us := (sorted_perm us).mem_iff.mp (List.get_mem _ _)
  obtain ⟨j, hj, hget⟩ := List.getElem_of_mem hmem
  have hjd : j < done.length := h.length_eq ▸ hj
  have hans := (List.forall₂_iff_get.mp h).2 j hjd hj
  simp only [List.get_eq_getElem] at hans hget ⊢
  rw [hget] at hans
  -- the request this result answers is the one in its place, for they share their id
  have hsame : done[j].id = requests[i].id := by
    rw [← hid _ _ hans]
    have := List.getElem_of_eq hsorted (by simpa using hu)
    simpa only [List.getElem_map] using this
  have heq := eq_of_id_eq hrising (hdone.mem_iff.mp (List.getElem_mem hjd)) (List.getElem_mem hr) hsame
  rwa [heq] at hans

end Update

end BatchInference
