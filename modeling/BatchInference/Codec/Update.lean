import BatchInference.Codec.Params
import BatchInference.Update

/-!
Parts of updates as JSON documents.
-/

namespace BatchInference

open Json (Decoder Fields)

namespace RequestId

def decoder : Decoder RequestId := fun depth tree => (Decoder.word64 depth tree).map (⟨·⟩)

def toJson (id : RequestId) : Json := Json.ofWord64 id.value

end RequestId

namespace Logprob

def decoder : Decoder Logprob := fun depth tree => do
  let fields ← Fields.ofTree? ["logprob", "rank", "decoded_token"] false depth tree
  let logprob ← fields.required "logprob" Decoder.single
  let rank ← fields.optional "rank" Decoder.count
  let decodedToken ← fields.optional "decoded_token" Decoder.string
  return { logprob, rank, decodedToken }

def toJson (p : Logprob) : Json :=
  .object [("logprob", Json.ofSingle p.logprob), ("rank", Json.ofOption Json.ofNat p.rank),
           ("decoded_token", Json.ofOption .text p.decodedToken)]

end Logprob

namespace FinishReason

def name : FinishReason → String
  | .stop => "Stop"
  | .length => "Length"
  | .abort => "Abort"

def decoder : Decoder FinishReason :=
  Decoder.oneOf ([.stop, .length, .abort].map fun r => (name r, r))

def toJson (r : FinishReason) : Json := .text r.name

end FinishReason

end BatchInference
