import BatchInference.Proofs.Batch.Ends

/-!
Services over an engine that keeps a record of what is asked of it. The record changes nothing about what comes of
a batch, and afterwards it shows in order the requests that were offered and the steps that were taken.
-/

namespace BatchInference

variable {σ τ : Type}

/-- How often the engine was stepped; a step that failed counts although it reported nothing. -/
def Work.steps (k : Work σ) : Nat :=
  match k.halt with
  | some (.failed _) => k.reports.length + 1
  | _ => k.reports.length

namespace EngineUse

/-- The requests among what was asked, in the order in which they were offered. -/
def requests : List EngineUse → List Request
  | [] => []
  | .offered r :: rest => r :: requests rest
  | .stepped :: rest => requests rest

@[simp]
theorem requests_append (uses more : List EngineUse) : requests (uses ++ more) = requests uses ++ requests more := by
  induction uses with
  | nil => rfl
  | cons use rest ih => cases use <;> simp [requests, ih]

@[simp]
theorem requests_offered (rs : List Request) : requests (rs.map .offered) = rs := by
  induction rs with
  | nil => rfl
  | cons r rest ih => simp [requests, ih]

@[simp]
theorem requests_stepped (n : Nat) : requests (List.replicate n .stepped) = [] := by
  induction n with
  | zero => rfl
  | succ n ih => simp [requests, List.replicate_succ, ih]

end EngineUse

namespace Engine

variable (e : Engine σ)

theorem offerAll_recorded (rs : List Request) (s : σ) (uses : List EngineUse) :
    e.recorded.offerAll rs (s, uses) =
      ⟨(e.offerAll rs s).refusal, (e.offerAll rs s).offers,
        (e.offerAll rs s).engine, uses ++ (rs.take (e.offerAll rs s).offers).map .offered⟩ := by
  induction rs, s using offerAll.induct e generalizing uses with
  | case1 s => simp [offerAll]
  | case2 r rest s s' hsubmit ih =>
    have hrecorded : e.recorded.submit (s, uses) r = (.ok (), (s', uses ++ [.offered r])) := by
      simp only [recorded, hsubmit]
    rw [offerAll_cons_ok hrecorded, offerAll_cons_ok hsubmit, ih]
    simp
  | case3 r rest s reason s' hsubmit =>
    have hrecorded : e.recorded.submit (s, uses) r = (.error reason, (s', uses ++ [.offered r])) := by
      simp only [recorded, hsubmit]
    rw [offerAll_cons_error hrecorded, offerAll_cons_error hsubmit]
    simp

theorem work_recorded (ticks : Nat) (s : σ) (uses : List EngineUse) :
    e.recorded.work ticks (s, uses) =
      ⟨(e.work ticks s).reports, (e.work ticks s).halt,
        (e.work ticks s).engine, uses ++ List.replicate (e.work ticks s).steps .stepped⟩ := by
  induction ticks, s using work.induct e generalizing uses with
  | case1 s hbusy =>
    have hrecorded : e.recorded.hasUnfinished (s, uses) = true := hbusy
    rw [work_zero hrecorded, work_zero hbusy]
    simp [Work.steps]
  | case2 s hbusy ticks reason s' hstep =>
    have hrecorded : e.recorded.hasUnfinished (s, uses) = true := hbusy
    have hfails : e.recorded.step (s, uses) = (.error reason, (s', uses ++ [.stepped])) := by
      simp only [recorded, hstep]
    rw [work_succ_error hrecorded hfails, work_succ_error hbusy hstep]
    simp [Work.steps]
  | case3 s hbusy ticks updates s' hstep ih =>
    have hrecorded : e.recorded.hasUnfinished (s, uses) = true := hbusy
    have hreports : e.recorded.step (s, uses) = (.ok updates, (s', uses ++ [.stepped])) := by
      simp only [recorded, hstep]
    rw [work_succ_ok hrecorded hreports, work_succ_ok hbusy hstep, ih]
    have hsteps : Work.steps { e.work ticks s' with reports := updates :: (e.work ticks s').reports } =
        (e.work ticks s').steps + 1 := by
      simp only [Work.steps, List.length_cons]
      split <;> rfl
    rw [hsteps, List.replicate_succ, List.append_assoc]
    rfl
  | case4 ticks s hidle =>
    have hrecorded : e.recorded.hasUnfinished (s, uses) = false := eq_false_of_ne_true hidle
    rw [work_idle hrecorded, work_idle (eq_false_of_ne_true hidle)]
    simp [Work.steps]

end Engine

def World.recorded (w : World σ τ) (uses : List EngineUse) : World (σ × List EngineUse) τ :=
  { engine := (w.engine, uses), counter := w.counter, sink := w.sink, log := w.log, defaults := w.defaults }

def Core.recorded (core : Core σ) (uses : List EngineUse) : Core (σ × List EngineUse) :=
  ⟨(core.engine, uses), core.counter, core.defaults⟩

theorem World.core_recorded (w : World σ τ) (uses : List EngineUse) :
    (w.recorded uses).core = w.core.recorded uses := rfl

/-- The activity ends so; and the same over an engine that keeps a record ends so too, with the record longer by what
was asked. -/
structure Run.EndsAsking {α : Type} (act : Run σ τ α) (recorded : Run (σ × List EngineUse) τ α) (w : World σ τ)
    (asked : List EngineUse) (result : Except Halt α) (after : Core σ) : Prop where
  ends : act.Ends w result after
  grows : ∀ uses, recorded.Ends (w.recorded uses) result (after.recorded (uses ++ asked))

namespace Service

/-- The same service over the same engine, of which everything that is asked is kept in a list. -/
def recorded (svc : Service σ) : Service (σ × List EngineUse) := ⟨svc.engine.recorded, svc.tokenizer, svc.logger⟩

variable (svc : Service σ) (ticks : Nat) (batch : Batch) (core : Core σ)

@[simp]
theorem engine_recorded : svc.recorded.engine = svc.engine.recorded := rfl

@[simp]
theorem model_recorded : svc.recorded.model = svc.model := rfl

/-- What a batch asks of the engine: to take its requests, as far as it does, and then to work on them. -/
def batchUses : List EngineUse :=
  match batch.prepare svc.model with
  | .error _ => []
  | .ok pending =>
    let requests := core.counter.number pending
    let offering := svc.engine.offerAll requests core.engine
    match offering.refusal with
    | some _ => (requests.take offering.offers).map .offered
    | none => requests.map .offered ++ List.replicate (svc.engine.work ticks offering.engine).steps .stepped

theorem batchUses_accepted {svc : Service σ} {ticks : Nat} {batch : Batch} {core : Core σ}
    {pending : List PendingRequest} {work : Work σ} (h : batch.prepare svc.model = .ok pending)
    (hrefusal : (svc.engine.offerAll (core.counter.number pending) core.engine).refusal = none)
    (hwork : svc.engine.work ticks (svc.engine.offerAll (core.counter.number pending) core.engine).engine = work) :
    svc.batchUses ticks batch core =
      (core.counter.number pending).map .offered ++ List.replicate work.steps .stepped := by
  simp only [batchUses, h, hrefusal, hwork]

/-- What a batch that passes offers are its requests under the next ids, each of which costs one id: all of them,
unless the batch ends with an error of the engine. -/
theorem exists_offered {svc : Service σ} {batch : Batch} {pending : List PendingRequest}
    (h : batch.prepare svc.model = .ok pending) (ticks : Nat) (core : Core σ) :
    ∃ offered, offered <+: pending ∧
      EngineUse.requests (svc.batchUses ticks batch core) = core.counter.number offered ∧
      (svc.batchEnd ticks batch core).2.counter = core.counter.skip offered.length ∧
      (offered = pending ∨
        ∃ reason, (svc.batchEnd ticks batch core).1 = .error (.failed (.engine (.reported reason)))) := by
  let offering := svc.engine.offerAll (core.counter.number pending) core.engine
  cases hrefusal : offering.refusal with
  | none =>
    refine ⟨pending, List.prefix_refl pending, ?_, ?_, .inl rfl⟩
    · simp [batchUses_accepted h hrefusal rfl]
    · rw [batchEnd_accepted h hrefusal rfl]
  | some reason =>
    have hle : offering.offers ≤ pending.length := by
      simpa using svc.engine.offers_le (core.counter.number pending) core.engine
    refine ⟨pending.take offering.offers, List.take_prefix _ _, ?_, ?_, .inr ⟨reason, ?_⟩⟩
    · simp only [batchUses, h, offering, hrefusal, EngineUse.requests_offered, IdCounter.number_take]
    · rw [List.length_take, Nat.min_eq_left hle]
      simp only [batchEnd, h, offering, hrefusal]
    · simp only [batchEnd, h, offering, hrefusal]

/-- What a batch that passes offers stands in the places of its requests. -/
theorem offered_in_place {svc : Service σ} {batch : Batch} {pending : List PendingRequest} {ticks : Nat} {core : Core σ}
    (h : batch.prepare svc.model = .ok pending) {i : Nat} {r : Request}
    (hr : (EngineUse.requests (svc.batchUses ticks batch core))[i]? = some r) :
    (core.counter.number pending)[i]? = some r := by
  obtain ⟨offered, hoffered, hrequests, -⟩ := exists_offered h ticks core
  rw [hrequests, List.prefix_iff_eq_take.mp hoffered, IdCounter.number_take, List.getElem?_take] at hr
  split at hr
  · exact hr
  · cases hr

theorem pending_of_offered {svc : Service σ} {batch : Batch} {pending : List PendingRequest} {ticks : Nat}
    {core : Core σ} (h : batch.prepare svc.model = .ok pending) {r : Request}
    (hr : r ∈ EngineUse.requests (svc.batchUses ticks batch core)) : r.toPendingRequest ∈ pending := by
  obtain ⟨i, hi⟩ := List.getElem?_of_mem hr
  exact IdCounter.mem_of_mem_number (List.mem_of_getElem? (offered_in_place h hi))

theorem batchUses_of_prepare_error {svc : Service σ} {ticks : Nat} {batch : Batch} {core : Core σ} {e : CallError}
    (h : batch.prepare svc.model = .error e) : svc.batchUses ticks batch core = [] := by
  simp only [batchUses, h]

/-- A batch comes to the same on an engine that keeps a record, and the record grows by what the batch asks. -/
theorem batchEnd_recorded (uses : List EngineUse) :
    svc.recorded.batchEnd ticks batch (core.recorded uses) =
      ((svc.batchEnd ticks batch core).1,
        (svc.batchEnd ticks batch core).2.recorded (uses ++ svc.batchUses ticks batch core)) := by
  cases hprepare : batch.prepare svc.model with
  | error err => simp only [batchEnd, batchUses, model_recorded, hprepare, List.append_nil]
  | ok pending =>
    have hoffering := svc.engine.offerAll_recorded (core.counter.number pending) core.engine uses
    cases hrefusal : (svc.engine.offerAll (core.counter.number pending) core.engine).refusal with
    | some reason =>
      simp only [batchEnd, batchUses, model_recorded, engine_recorded, hprepare, Core.recorded,
        hoffering, hrefusal]
    | none =>
      have hoffers := Engine.offers_of_accepted hrefusal
      simp only [batchEnd, batchUses, model_recorded, engine_recorded, hprepare, Core.recorded,
        hoffering, hrefusal, hoffers,
        List.take_length, Engine.work_recorded, List.append_assoc]
      rfl

end Service

end BatchInference
