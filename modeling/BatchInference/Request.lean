import BatchInference.RequestId
import BatchInference.Adapter
import BatchInference.Params.Basic

/-!
Requests: everything an engine needs to run one prompt. A request that has been checked but has no id yet is
pending; drawing an id is all that is left to do.
-/

namespace BatchInference

/-- A checked request that still waits for its id. -/
structure PendingRequest where
  prompt : Prompt
  params : RequestParams
  adapters : Adapters := {}
  truncation : Option Truncation := none
  /-- Matters only to an engine that schedules by priority. -/
  priority : Int32 := 0

structure Request extends PendingRequest where
  id : RequestId

namespace PendingRequest

def withId (p : PendingRequest) (id : RequestId) : Request := { p with id := id }

@[simp]
theorem withId_id (p : PendingRequest) (id : RequestId) : (p.withId id).id = id := rfl

@[simp]
theorem toPendingRequest_withId (p : PendingRequest) (id : RequestId) :
    (p.withId id).toPendingRequest = p := rfl

/-- Length of the longest prompt whose length is known, zero if none is. -/
def longestPrompt (ps : List PendingRequest) : Nat :=
  (ps.filterMap (·.prompt.length?)).foldl max 0

end PendingRequest

namespace Request

/-- Two requests are the same one exactly if they have the same id. -/
def same (a b : Request) : Bool := a.id = b.id

/-- Length of the longest prompt whose length is known, zero if none is. -/
def longestPrompt (rs : List Request) : Nat :=
  PendingRequest.longestPrompt (rs.map (·.toPendingRequest))

end Request

end BatchInference
