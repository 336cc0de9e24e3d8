import BatchInference.Codec.Params

/-!
Model configurations as JSON documents.
-/

namespace BatchInference

open Json (Decoder Fields)

namespace Runner

def decoder : Decoder Runner :=
  Decoder.oneOf ([.generate, .transcription, .pooling].map fun r => (Runner.name r, r))

def toJson (r : Runner) : Json := .text r.name

end Runner

namespace Task

def name : Task → String
  | .generate => "generate"
  | .transcription => "transcription"
  | .embed => "embed"
  | .classify => "classify"
  | .score => "score"
  | .reward => "reward"

def decoder : Decoder Task :=
  Decoder.oneOf ([.generate, .transcription, .embed, .classify, .score, .reward].map fun t => (name t, t))

def toJson (t : Task) : Json := .text t.name

end Task

namespace GenerationDefaults

def decoder : Decoder GenerationDefaults := fun depth tree => do
  let fields ← Fields.ofTree?
    ["temperature", "top_p", "top_k", "min_p", "repetition_penalty", "max_tokens"] true depth tree
  let temperature ← fields.optional "temperature" Decoder.single
  let topP ← fields.optional "top_p" Decoder.single
  let topK ← fields.optional "top_k" Decoder.count
  let minP ← fields.optional "min_p" Decoder.single
  let repetitionPenalty ← fields.optional "repetition_penalty" Decoder.single
  let maxTokens ← fields.optional "max_tokens" Decoder.count
  return { temperature, topP, topK, minP, repetitionPenalty, maxTokens }

def toJson (d : GenerationDefaults) : Json :=
  .object
    [("temperature", Json.ofOption Json.ofSingle d.temperature),
     ("top_p", Json.ofOption Json.ofSingle d.topP), ("top_k", Json.ofOption Json.ofNat d.topK),
     ("min_p", Json.ofOption Json.ofSingle d.minP),
     ("repetition_penalty", Json.ofOption Json.ofSingle d.repetitionPenalty),
     ("max_tokens", Json.ofOption Json.ofNat d.maxTokens)]

end GenerationDefaults

namespace ModelConfig

def decoder : Decoder ModelConfig := fun depth tree => do
  let base : ModelConfig := {}
  let fields ← Fields.ofTree?
    ["runner_type", "supported_runner_types", "task", "max_model_len", "is_matryoshka", "is_cross_encoder",
     "num_labels", "generation_defaults"] true depth tree
  let runner ← fields.withDefault "runner_type" Runner.decoder base.runner
  let supportedRunners ←
    fields.withDefault "supported_runner_types" (Decoder.list Runner.decoder) base.supportedRunners
  let task ← fields.withDefault "task" Task.decoder base.task
  let maxModelLen ← fields.withDefault "max_model_len" Decoder.count base.maxModelLen
  let isMatryoshka ← fields.withDefault "is_matryoshka" Decoder.bool base.isMatryoshka
  let isCrossEncoder ← fields.withDefault "is_cross_encoder" Decoder.bool base.isCrossEncoder
  let numLabels ← fields.optional "num_labels" Decoder.count
  let generationDefaults ←
    fields.withDefault "generation_defaults" GenerationDefaults.decoder base.generationDefaults
  return { runner, supportedRunners, task, maxModelLen, isMatryoshka, isCrossEncoder, numLabels,
           generationDefaults }

def toJson (c : ModelConfig) : Json :=
  .object
    [("runner_type", c.runner.toJson),
     ("supported_runner_types", Json.ofList Runner.toJson c.supportedRunners),
     ("task", c.task.toJson), ("max_model_len", Json.ofNat c.maxModelLen),
     ("is_matryoshka", .bool c.isMatryoshka), ("is_cross_encoder", .bool c.isCrossEncoder),
     ("num_labels", Json.ofOption Json.ofNat c.numLabels),
     ("generation_defaults", c.generationDefaults.toJson)]

end ModelConfig

end BatchInference
