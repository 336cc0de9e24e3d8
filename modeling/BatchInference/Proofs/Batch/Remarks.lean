import BatchInference.Proofs.Remarks
import BatchInference.Proofs.Batch.Ends

/-!
What a submission says. Each request is shown before it is offered; if the engine takes it the display advances, and
if it does not, the log says so and the display is closed. The log and the display have then been told about the
requests that were offered and about no other.
-/

namespace BatchInference

open Run

/-- What the log says of a request that the engine refuses. -/
def rejectionNote (r : Request) (reason : String) : LogRecord :=
  ⟨.warn, "Engine rejected request " ++ r.id.text ++ ": " ++ reason⟩

/-- What the log says of a batch that the engine took. -/
def submittedNote (pending : List PendingRequest) : LogRecord :=
  ⟨.debug, "Submitted " ++ toString pending.length ++ " requests, longest known prompt " ++
    toString (PendingRequest.longestPrompt pending) ++ " tokens"⟩

namespace Remark

/-- What is said of a request that the engine takes. -/
def taken (r : Request) : List Remark := [.request r, .report (.advance 1)]

/-- What is said of a request that the engine refuses. -/
def refused (r : Request) (reason : String) : List Remark :=
  [.request r, .note (rejectionNote r reason), .report .close]

/-- What is said at the end of a submission that the engine took, when a refusal has not ended it before. -/
def submitted (pending : List PendingRequest) : List Remark := [.note (submittedNote pending), .report .close]

theorem requests_taken (rs : List Request) : (rs.flatMap taken).filterMap (·.request?) = rs := by
  induction rs with
  | nil => rfl
  | cons r rest ih =>
    rw [List.flatMap_cons, List.filterMap_append, ih]
    rfl

end Remark

/-- What is said while requests are offered. -/
def Engine.remarks {σ : Type} (e : Engine σ) : List Request → σ → List Remark
  | [], _ => []
  | r :: rest, s =>
    match e.submit s r with
    | (.ok (), s) => Remark.taken r ++ e.remarks rest s
    | (.error reason, _) => Remark.refused r reason

namespace Service

variable {σ τ : Type} {w : World σ τ} {s : σ} {c : IdCounter} {d : Option SamplingParams}

theorem submitOne_tells (svc : Service σ) (sink : ProgressSink τ) (p : PendingRequest) (hw : w.core = ⟨s, c, d⟩) :
    (svc.submitOne sink p).Tells svc.logger sink w
      (.request (p.withId c.peek) ::
        match (svc.engine.submit s (p.withId c.peek)).1 with
        | .ok () => [.report (.advance 1)]
        | .error reason => [.note (rejectionNote (p.withId c.peek) reason), .report .close]) := by
  apply tells_drawId.bind (ends_drawId hw)
  intro w₁ h₁
  apply (tells_showRequest svc _).bind (ends_showRequest svc _ h₁)
  intro w₂ h₂
  apply (tells_offer _ _).bind (ends_offer svc.engine _ h₂)
  intro w₃ h₃
  cases (svc.engine.submit s (p.withId c.peek)).1 with
  | ok => exact (tells_report sink _).before_silent fun _ _ => tells_pure _
  | error reason =>
    apply (tells_log _ _).bind (ends_log _ _ h₃)
    intro w₄ _
    exact (tells_report sink _).before_silent fun _ _ => tells_fail _

theorem submitAll_tells (svc : Service σ) (sink : ProgressSink τ) (ps : List PendingRequest)
    (hw : w.core = ⟨s, c, d⟩) :
    (svc.submitAll sink ps).Tells svc.logger sink w (svc.engine.remarks (c.number ps) s) := by
  induction ps generalizing w s c with
  | nil => exact tells_pure []
  | cons p rest ih =>
    have hends := svc.submitOne_ends sink p hw
    have hone := svc.submitOne_tells sink p hw
    simp only [IdCounter.number, Engine.remarks]
    cases hsubmit : svc.engine.submit s (p.withId c.peek) with
    | mk answer s' =>
      rw [hsubmit] at hends hone
      cases answer with
      | ok => exact hone.bind hends fun w₁ h₁ => (ih h₁).before_silent fun _ _ => tells_pure _
      | error reason => exact hone.bind_error hends

/-- A submission that is not refused says at its end what it submitted. -/
theorem submit_tells (svc : Service σ) (sink : ProgressSink τ) (ps : List PendingRequest) (hw : w.core = ⟨s, c, d⟩) :
    (svc.submit sink ps).Tells svc.logger sink w
      (.report (.start "Adding requests" ps.length) :: (svc.engine.remarks (c.number ps) s ++
        match (svc.engine.offerAll (c.number ps) s).refusal with
        | none => Remark.submitted ps
        | some _ => [])) := by
  apply report_tells hw
  intro w₁ h₁
  have hends := svc.submitAll_ends sink ps h₁
  have hall := svc.submitAll_tells sink ps h₁
  cases hrefusal : (svc.engine.offerAll (c.number ps) s).refusal with
  | none =>
    simp only [Offering.result, hrefusal] at hends
    apply hall.bind hends
    intro w₂ h₂
    rw [IdCounter.length_ids]
    apply (tells_log _ _).bind (ends_log _ _ h₂)
    intro w₃ h₃
    exact (tells_report sink _).before_silent fun _ _ => tells_pure _
  | some reason =>
    simp only [Offering.result, hrefusal] at hends
    rw [List.append_nil]
    exact hall.bind_error hends

end Service

end BatchInference
