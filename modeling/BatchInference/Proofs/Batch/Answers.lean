import Mathlib.Data.Set.List
import BatchInference.Proofs.Batch.Prepare
import BatchInference.Proofs.Batch.Validation

/-!
What the calls that run one batch ask for and what they answer. All requests of such a call ask for one kind of
output, and an answer shows its updates one by one, each in the view of the call; that there is an answer depends
on the kinds of the updates only.
-/

namespace BatchInference

variable {σ : Type} {us : List Update}

/-- The answer has one output for each update, in order, and each output is the view of its update. -/
def Answer.Shows : Answer → List Update → Prop
  | .generations gs, us => us = gs.map .generation
  | .pooled ps, us => us = ps.map .pooled
  | .embeddings es, us => ∃ ps : List Pooled, us = ps.map .pooled ∧ es = ps.map (·.toEmbedding)
  | .classifications cs, us => ∃ ps : List Pooled, us = ps.map .pooled ∧ cs = ps.map (·.toClassification)
  | .scores _, _ => False
  | .beams _, _ => False

namespace Update

theorem toGeneration_eq_ok {u : Update} {g : Generation} : u.toGeneration = .ok g ↔ u = .generation g := by
  cases u <;> simp [toGeneration]

theorem toPooled_eq_ok {u : Update} {p : Pooled} : u.toPooled = .ok p ↔ u = .pooled p := by
  cases u <;> simp [toPooled]

private theorem mapM_view_eq_ok {α : Type} {view : α → Update} {read : Update → Except CallError α}
    (hread : ∀ u a, read u = .ok a ↔ u = view a) {as : List α} : us.mapM read = .ok as ↔ us = as.map view := by
  rw [mapM_eq_ok]
  simp only [hread]
  constructor
  · intro h
    induction h with
    | nil => rfl
    | cons hu _ ih => rw [List.map_cons, hu, ih]
  · rintro rfl
    rw [List.forall₂_map_left_iff, List.forall₂_same]
    exact fun _ _ => rfl

theorem mapM_toGeneration_eq_ok {gs : List Generation} :
    us.mapM (·.toGeneration) = .ok gs ↔ us = gs.map .generation :=
  mapM_view_eq_ok fun _ _ => toGeneration_eq_ok

theorem mapM_toPooled_eq_ok {ps : List Pooled} : us.mapM (·.toPooled) = .ok ps ↔ us = ps.map .pooled :=
  mapM_view_eq_ok fun _ _ => toPooled_eq_ok

theorem exists_generations (h : ∀ u ∈ us, u.sort = .generation) : ∃ gs : List Generation, gs.map .generation = us := by
  rw [← Set.mem_range, Set.range_list_map]
  intro u hu
  cases u with
  | generation g => exact ⟨g, rfl⟩
  | pooled p => cases h _ hu

theorem exists_pooled (h : ∀ u ∈ us, u.sort = .pooled) : ∃ ps : List Pooled, ps.map .pooled = us := by
  rw [← Set.mem_range, Set.range_list_map]
  intro u hu
  cases u with
  | generation g => cases h _ hu
  | pooled p => exact ⟨p, rfl⟩

end Update

namespace BatchCall

open Update

variable {c : BatchCall} {svc : Service σ} {d : Option SamplingParams} {batch : Batch}
  {pending : List PendingRequest} {answer : Answer}

/-- The kind of output that the requests of a call ask for. -/
def sort : BatchCall → OutputSort
  | .generate .. => .generation
  | .encode .. => .pooled
  | .embed .. => .pooled
  | .classify .. => .pooled

theorem shows_of_answer (h : c.answer us = .ok answer) : answer.Shows us := by
  cases c with
  | generate input options =>
    obtain ⟨gs, hgs, rfl⟩ := map_eq_ok.mp h
    exact mapM_toGeneration_eq_ok.mp hgs
  | encode input options =>
    obtain ⟨ps, hps, rfl⟩ := map_eq_ok.mp h
    exact mapM_toPooled_eq_ok.mp hps
  | embed input options =>
    obtain ⟨ps, hps, rfl⟩ := map_eq_ok.mp h
    exact ⟨ps, mapM_toPooled_eq_ok.mp hps, rfl⟩
  | classify input options =>
    obtain ⟨ps, hps, rfl⟩ := map_eq_ok.mp h
    exact ⟨ps, mapM_toPooled_eq_ok.mp hps, rfl⟩

theorem encodeBatch_made {input : PromptInput} {options : EncodeOptions}
    (h : svc.encodeBatch input options = .ok batch) :
    input.normalize = .ok batch.prompts ∧ (∀ p ∈ batch.params.values, p.sort = .pooled) ∧
      Truncation.Within svc.model.maxModelLen batch.truncation := by
  obtain ⟨_, _, h⟩ := bind_eq_ok.mp h
  obtain ⟨prompts, hprompts, h⟩ := bind_eq_ok.mp h
  obtain ⟨_, htruncation, h⟩ := bind_eq_ok.mp h
  cases h
  refine ⟨hprompts, ?_, Truncation.within_of_resolve htruncation⟩
  intro p hp
  obtain ⟨q, _, rfl⟩ := Broadcast.mem_values_map.mp hp
  rfl

theorem within_of_truncationOf {params : Broadcast SamplingParams} {truncation : Option Truncation}
    (h : svc.truncationOf params = .ok truncation) : Truncation.Within svc.model.maxModelLen truncation := by
  cases params with
  | one p => exact Truncation.within_of_resolve h
  | each ps =>
    cases h
    exact Truncation.within_none _

/-- The batch of a call is made of the prompts the call was given, asks for one kind of output, and truncates to the
context window at most. -/
theorem batch_made (h : c.batch svc d = .ok batch) :
    c.input.normalize = .ok batch.prompts ∧ (∀ p ∈ batch.params.values, p.sort = c.sort) ∧
      Truncation.Within svc.model.maxModelLen batch.truncation := by
  cases c with
  | generate input options =>
    obtain ⟨_, _, h⟩ := bind_eq_ok.mp h
    obtain ⟨prompts, hprompts, h⟩ := bind_eq_ok.mp h
    obtain ⟨_, _, h⟩ := bind_eq_ok.mp h
    obtain ⟨_, htruncation, h⟩ := bind_eq_ok.mp h
    cases h
    refine ⟨hprompts, ?_, within_of_truncationOf htruncation⟩
    intro p hp
    obtain ⟨q, _, rfl⟩ := Broadcast.mem_values_map.mp hp
    rfl
  | encode input options => exact encodeBatch_made h
  | embed input options =>
    obtain ⟨_, _, h⟩ := bind_eq_ok.mp h
    exact encodeBatch_made h
  | classify input options =>
    obtain ⟨_, _, h⟩ := bind_eq_ok.mp h
    exact encodeBatch_made h

/-- A call that passes its checks has one request for each prompt, in order. -/
theorem prompts_of_validate (h : c.validate svc d = .ok pending) :
    c.input.normalize = .ok (pending.map (·.prompt)) := by
  obtain ⟨batch, hbatch, hprepare⟩ := bind_eq_ok.mp h
  rw [Batch.prompts_of_prepare hprepare]
  exact (batch_made hbatch).1

end BatchCall

end BatchInference
