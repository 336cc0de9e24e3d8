import BatchInference.Service
import BatchInference.Batch.Basic

/-!
Handing a checked batch to the engine: one id for each request, drawn in order at the moment the request is
offered. A refusal ends the submission; what was accepted before stays with the engine.
-/

namespace BatchInference.Service

variable {σ τ : Type}

/-- Gives a request its id and offers it. -/
def submitOne (svc : Service σ) (sink : ProgressSink τ) (p : PendingRequest) : Run σ τ RequestId := do
  let request := p.withId (← Run.drawId)
  svc.showRequest request
  match ← Run.offer svc.engine request with
  | .ok () =>
    Run.report sink (.advance 1)
    return request.id
  | .error reason =>
    Run.log .warn ("Engine rejected request " ++ request.id.text ++ ": " ++ reason)
    Run.report sink .close
    Run.fail (.engine (.reported reason))

def submitAll (svc : Service σ) (sink : ProgressSink τ) : List PendingRequest → Run σ τ (List RequestId)
  | [] => return []
  | p :: rest => do
    let id ← svc.submitOne sink p
    return id :: (← svc.submitAll sink rest)

/-- Submits a batch; the ids are those of its requests in order. -/
def submit (svc : Service σ) (sink : ProgressSink τ) (batch : List PendingRequest) :
    Run σ τ (List RequestId) := do
  Run.report sink (.start "Adding requests" batch.length)
  let ids ← svc.submitAll sink batch
  Run.log .debug ("Submitted " ++ toString ids.length ++ " requests, longest known prompt " ++
    toString (PendingRequest.longestPrompt batch) ++ " tokens")
  Run.report sink .close
  return ids

end BatchInference.Service
