import BatchInference.Codec.Params
import BatchInference.Adapter

/-!
Adapters as JSON documents. All their fields have to be given, but for one that may be absent.
-/

namespace BatchInference

open Json (Decoder Fields)

namespace LoraAdapter

def decoder : Decoder LoraAdapter := fun depth tree => do
  let fields ← Fields.ofTree? ["lora_name", "lora_int_id", "lora_path"] false depth tree
  let name ← fields.required "lora_name" Decoder.string
  let id ← fields.required "lora_int_id" Decoder.word32
  let path ← fields.required "lora_path" Decoder.string
  return { name, id, path }

def toJson (a : LoraAdapter) : Json :=
  .object [("lora_name", .text a.name), ("lora_int_id", Json.ofWord32 a.id), ("lora_path", .text a.path)]

end LoraAdapter

namespace PromptAdapter

def decoder : Decoder PromptAdapter := fun depth tree => do
  let fields ← Fields.ofTree?
    ["prompt_adapter_name", "prompt_adapter_id", "prompt_adapter_local_path",
     "prompt_adapter_num_virtual_tokens"] false depth tree
  let name ← fields.required "prompt_adapter_name" Decoder.string
  let id ← fields.required "prompt_adapter_id" Decoder.word32
  let localPath ← fields.required "prompt_adapter_local_path" Decoder.string
  let numVirtualTokens ← fields.required "prompt_adapter_num_virtual_tokens" Decoder.count
  return { name, id, localPath, numVirtualTokens }

def toJson (a : PromptAdapter) : Json :=
  .object
    [("prompt_adapter_name", .text a.name), ("prompt_adapter_id", Json.ofWord32 a.id),
     ("prompt_adapter_local_path", .text a.localPath),
     ("prompt_adapter_num_virtual_tokens", Json.ofNat a.numVirtualTokens)]

end PromptAdapter

namespace SteerVector

def decoder : Decoder SteerVector := fun depth tree => do
  let fields ← Fields.ofTree?
    ["steer_vector_name", "steer_vector_id", "steer_vector_local_path", "scale", "target_layers",
     "algorithm"] false depth tree
  let name ← fields.required "steer_vector_name" Decoder.string
  let id ← fields.required "steer_vector_id" Decoder.word32
  let localPath ← fields.required "steer_vector_local_path" Decoder.string
  let scale ← fields.required "scale" Decoder.single
  let targetLayers ← fields.optional "target_layers" (Decoder.list Decoder.count)
  let algorithm ← fields.required "algorithm" Decoder.string
  return { name, id, localPath, scale, targetLayers, algorithm }

/-- The members of the record, its single-precision number written as asked. -/
def members (number : Binary32 → Json) (v : SteerVector) : List (String × Json) :=
  [("steer_vector_name", .text v.name), ("steer_vector_id", Json.ofWord32 v.id),
   ("steer_vector_local_path", .text v.localPath), ("scale", number v.scale),
   ("target_layers", Json.ofOption (Json.ofList Json.ofNat) v.targetLayers),
   ("algorithm", .text v.algorithm)]

def toJson (v : SteerVector) : Json := .object (v.members Json.ofSingle)

end SteerVector

end BatchInference
