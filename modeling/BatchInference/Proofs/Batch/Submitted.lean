import BatchInference.Proofs.Batch.Recording
import BatchInference.Proofs.Batch.Remarks
import BatchInference.Proofs.Engine.Stretches
import BatchInference.Scripted.Engine

/-!
What a submission leaves behind, also when it stops half way. The engine, the counter, the log and the display all
stop at the same request, the first that the engine refuses: it has been given an id, shown and offered, those before
it have moreover been taken, and those after it have not been touched. A batch that is refused in this way takes no
step of the engine.
-/

namespace BatchInference

open Run

variable {σ τ : Type}

section Remarks

variable {e : Engine σ} {s mid last : σ} {rs requests : List Request}

theorem Engine.Takes.remarks_append (h : e.Takes s rs mid) (more : List Request) :
    e.remarks (rs ++ more) s = rs.flatMap Remark.taken ++ e.remarks more mid := by
  induction h with
  | none => rfl
  | next hsubmit _ ih => simp only [List.cons_append, Engine.remarks, hsubmit, ih, List.flatMap_cons, List.append_assoc]

theorem Engine.Takes.remarks (h : e.Takes s rs last) : e.remarks rs s = rs.flatMap Remark.taken := by
  have hall := h.remarks_append []
  rwa [List.append_nil, Engine.remarks, List.append_nil] at hall

theorem Engine.RefusesFirst.remarks {k : Nat} {r : Request} {reason : String}
    (h : e.RefusesFirst s requests k r reason last) :
    e.remarks requests s = (requests.take k).flatMap Remark.taken ++ Remark.refused r reason := by
  obtain ⟨mid, htakes, hsubmit⟩ := h.refused
  have hall := htakes.remarks_append (r :: requests.drop (k + 1))
  rw [← h.eq_append.1] at hall
  rw [hall]
  simp only [Engine.remarks, hsubmit]

end Remarks

/-- A rehearsed engine keeps a list of what it accepted. -/
theorem Scripted.Plan.holding_accepted (plan : Plan) : plan.engine.Holding fun s rs => s.accepted = rs where
  accepted := by
    rintro s s' rs r rfl hsubmit
    change plan.submit s r = _ at hsubmit
    unfold submit at hsubmit
    dsimp only at hsubmit
    split at hsubmit
    · cases hsubmit
    · cases hsubmit
      rfl
  refused := by
    rintro s s' rs r reason rfl hsubmit
    change plan.submit s r = _ at hsubmit
    unfold submit at hsubmit
    dsimp only at hsubmit
    split at hsubmit
    · cases hsubmit
      rfl
    · cases hsubmit

namespace Service

/-- A submission that offers the first `offered` of the requests, of which the engine takes the first `taken`: its
result and the state in which it leaves the engine, what it asks, what it says, and what the engine holds after it. -/
structure Submits (svc : Service σ) (sink : ProgressSink τ) (pending : List PendingRequest) (w : World σ τ)
    (requests : List Request) (offered taken : Nat) (remarks : List Remark) (result : Except Halt (List RequestId))
    (last : σ) : Prop where
  asks : (svc.submit sink pending).EndsAsking (svc.recorded.submit sink pending) w
    ((requests.take offered).map .offered) result ⟨last, w.counter.skip offered, w.defaults⟩
  held : ∀ {holds : σ → List Request → Prop} {before : List Request}, svc.engine.Holding holds →
    holds w.engine before → holds last (before ++ requests.take taken)
  told : (svc.submit sink pending).Tells svc.logger sink w remarks
  shown : remarks.filterMap (·.request?) = requests.take offered

variable {svc : Service σ} {sink : ProgressSink τ} {pending : List PendingRequest} {w : World σ τ} {last : σ}

theorem submit_asks (svc : Service σ) (sink : ProgressSink τ) (pending : List PendingRequest) (w : World σ τ)
    {offering : Offering σ} (hoffering : svc.engine.offerAll (w.counter.number pending) w.engine = offering) :
    (svc.submit sink pending).EndsAsking (svc.recorded.submit sink pending) w
      (((w.counter.number pending).take offering.offers).map .offered)
      (offering.result (w.counter.ids pending.length))
      ⟨offering.engine, w.counter.skip offering.offers, w.defaults⟩ := by
  subst hoffering
  refine ⟨svc.submit_ends sink pending rfl, ?_⟩
  intro uses
  have hends := svc.recorded.submit_ends sink pending (w := w.recorded uses) (s := (w.engine, uses)) rfl
  rw [engine_recorded, Engine.offerAll_recorded] at hends
  exact hends

theorem submits_of_takes (sink : ProgressSink τ) (htakes : svc.engine.Takes w.engine (w.counter.number pending) last) :
    svc.Submits sink pending w (w.counter.number pending) pending.length pending.length
      (.report (.start "Adding requests" pending.length) ::
        ((w.counter.number pending).flatMap Remark.taken ++ Remark.submitted pending))
      (.ok (w.counter.ids pending.length)) last := by
  have hoffering := htakes.offerAll
  have htake : (w.counter.number pending).take pending.length = w.counter.number pending :=
    List.take_of_length_le (w.counter.length_number pending).le
  rw [IdCounter.length_number] at hoffering
  have htold := svc.submit_tells sink pending (w := w) rfl
  simp only [hoffering] at htold
  refine ⟨svc.submit_asks sink pending w hoffering, ?_, ?_, ?_⟩
  · intro holds before hholding hbefore
    rw [htake]
    exact htakes.holds hholding hbefore
  · rwa [htakes.remarks] at htold
  · rw [htake]
    simp [Remark.requests_taken, Remark.submitted, List.filterMap_cons]

section Refused

variable {k : Nat} {r : Request} {reason : String}

theorem submits_of_refusesFirst (sink : ProgressSink τ)
    (hrefuses : svc.engine.RefusesFirst w.engine (w.counter.number pending) k r reason last) :
    svc.Submits sink pending w (w.counter.number pending) (k + 1) k
      (.report (.start "Adding requests" pending.length) ::
        (((w.counter.number pending).take k).flatMap Remark.taken ++ Remark.refused r reason))
      (.error (.failed (.engine (.reported reason)))) last := by
  have htold := svc.submit_tells sink pending (w := w) rfl
  simp only [hrefuses.offerAll] at htold
  refine ⟨svc.submit_asks sink pending w hrefuses.offerAll, ?_, ?_, ?_⟩
  · intro holds before hholding hbefore
    exact hrefuses.holds hholding hbefore
  · rwa [hrefuses.remarks, List.append_nil] at htold
  · rw [List.take_add_one, hrefuses.there]
    simp [Remark.requests_taken, Remark.refused, List.filterMap_cons]

/-- A batch of which a request is refused asks nothing of the engine but to take its requests up to that one. -/
theorem runBatch_of_refusesFirst (sink : ProgressSink τ)
    (hrefuses : svc.engine.RefusesFirst w.engine (w.counter.number pending) k r reason last) (ticks : Nat)
    {batch : Batch} (hprepare : batch.prepare svc.model = .ok pending) :
    (svc.runBatch ticks batch sink).EndsAsking (svc.recorded.runBatch ticks batch sink) w
      (((w.counter.number pending).take (k + 1)).map .offered) (.error (.failed (.engine (.reported reason))))
      ⟨last, w.counter.skip (k + 1), w.defaults⟩ := by
  have hend : svc.batchEnd ticks batch w.core =
      (.error (.failed (.engine (.reported reason))), ⟨last, w.counter.skip (k + 1), w.defaults⟩) := by
    simp only [batchEnd, hprepare, World.core, hrefuses.offerAll]
  have huses : svc.batchUses ticks batch w.core = ((w.counter.number pending).take (k + 1)).map .offered := by
    simp only [batchUses, hprepare, World.core, hrefuses.offerAll]
  constructor
  · have hends := svc.runBatch_ends ticks batch sink (w := w) rfl
    rwa [hend] at hends
  · intro uses
    have hends := svc.recorded.runBatch_ends ticks batch sink (w := w.recorded uses) rfl
    rwa [World.core_recorded, batchEnd_recorded, hend, huses] at hends

end Refused

/-- A submission is accounted for to the request: its requests are the pending ones under the next ids, in order, and
if one is the first to be refused, then the engine has been offered it and those before it, holds those before it and
no other, and is left alone, the counter has passed the ids of those offered, and they were shown and no other. If none
is refused, then all of them are taken. -/
theorem submission_accounted (svc : Service σ) (sink : ProgressSink τ) (pending : List PendingRequest)
    (w : World σ τ) :
    let requests := w.counter.number pending
    requests.map (·.toPendingRequest) = pending ∧ requests.map (·.id) = w.counter.ids pending.length ∧
      ((∃ last, svc.engine.Takes w.engine requests last) ∨
        ∃ k r reason last, svc.engine.RefusesFirst w.engine requests k r reason last) ∧
      (∀ last, svc.engine.Takes w.engine requests last →
        svc.Submits sink pending w requests pending.length pending.length
          (.report (.start "Adding requests" pending.length) ::
            (requests.flatMap Remark.taken ++ Remark.submitted pending))
          (.ok (w.counter.ids pending.length)) last) ∧
      ∀ k r reason last, svc.engine.RefusesFirst w.engine requests k r reason last →
        svc.Submits sink pending w requests (k + 1) k
          (.report (.start "Adding requests" pending.length) ::
            ((requests.take k).flatMap Remark.taken ++ Remark.refused r reason))
          (.error (.failed (.engine (.reported reason)))) last ∧
        ∀ ticks batch, batch.prepare svc.model = .ok pending →
          (svc.runBatch ticks batch sink).EndsAsking (svc.recorded.runBatch ticks batch sink) w
            ((requests.take (k + 1)).map .offered) (.error (.failed (.engine (.reported reason))))
            ⟨last, w.counter.skip (k + 1), w.defaults⟩ := by
  intro requests
  refine ⟨w.counter.toPendingRequest_number pending, w.counter.ids_number pending,
    svc.engine.takes_or_refusesFirst _ _, fun _ => submits_of_takes sink, ?_⟩
  intro k r reason last hrefuses
  exact ⟨submits_of_refusesFirst sink hrefuses, fun ticks _ => runBatch_of_refusesFirst sink hrefuses ticks⟩

/-- A service whose engine refuses the second request it is offered, and which shows its requests in part. -/
def secondRefused : Service Scripted.State where
  engine := ({ answers := { offsets := [] }, alphabet := {}, refused := [1] } : Scripted.Plan).engine
  tokenizer := Scripted.Alphabet.tokenizer {}
  logger := some { maxLength := some 4 }

def threePending : List PendingRequest :=
  [10, 20, 30].map fun token => { prompt := .ofTokens [token], params := .sampling {} }

/-- A world whose counter has one id left before it comes round, and whose display keeps what it is told. -/
def turningWorld : World Scripted.State (List ProgressEvent) where
  engine := {}
  counter := ⟨18446744073709551615⟩
  sink := []

/-- The second of three requests is refused while the counter comes round: the engine has been offered two requests
and has taken one of them, and nothing has been done about the third. -/
theorem second_of_three_refused : ∃ remarks last,
    secondRefused.Submits .recorder threePending turningWorld (turningWorld.counter.number threePending) 2 1 remarks
      (.error (.failed (.engine (.reported "rejected request 0")))) last ∧
    (turningWorld.counter.number threePending).map (·.id) = [⟨18446744073709551615⟩, ⟨0⟩, ⟨1⟩] ∧
    last.offers = 2 ∧ last.accepted = (turningWorld.counter.number threePending).take 1 ∧ last.steps = 0 := by
  obtain ⟨-, -, -, -, hrefused⟩ := secondRefused.submission_accounted .recorder threePending turningWorld
  have hsubmits := (hrefused 1 _ _ _ ⟨rfl, _, .next rfl .none, rfl⟩).1
  exact ⟨_, _, hsubmits, by decide, rfl, hsubmits.held (Scripted.Plan.holding_accepted _) rfl, rfl⟩

end Service

end BatchInference
