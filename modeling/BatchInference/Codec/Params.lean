import BatchInference.Json.Decode
import BatchInference.Params.Basic

/-!
Parameter records as JSON documents. Fields that are left out take the defaults of their record; fields are
written in the order in which they are declared, all of them.
-/

namespace BatchInference

open Json (Decoder Fields)

namespace Json

def ofNat (n : Nat) : Json := .number (.integer n)
def ofInt (n : Int) : Json := .number (.integer n)
def ofWord32 (n : UInt32) : Json := ofNat n.toNat
def ofWord64 (n : UInt64) : Json := ofNat n.toNat
def ofSingle (x : Binary32) : Json := .number (.single x)

/-- A value, or `null` where there is none. -/
def ofOption {α : Type} (encode : α → Json) : Option α → Json
  | none => .null
  | some a => encode a

def ofList {α : Type} (encode : α → Json) (as : List α) : Json := .array (as.map encode)

end Json

namespace OutputKind

def cases : List (String × OutputKind) :=
  [("Cumulative", .cumulative), ("Delta", .delta), ("FinalOnly", .finalOnly)]

def decoder : Decoder OutputKind := Decoder.oneOf cases

def toJson : OutputKind → Json
  | .cumulative => .text "Cumulative"
  | .delta => .text "Delta"
  | .finalOnly => .text "FinalOnly"

end OutputKind

/-- The names under which the eight settings of guided decoding are written. -/
structure GuidanceNames where
  json : String
  regex : String
  choice : String
  grammar : String
  jsonObject : String
  structuralTag : String
  backend : String
  whitespacePattern : String

namespace GuidanceNames

def ofParams : GuidanceNames :=
  ⟨"json", "regex", "choice", "grammar", "json_object", "structural_tag", "backend", "whitespace_pattern"⟩

def ofOptions : GuidanceNames :=
  ⟨"guided_json", "guided_regex", "guided_choice", "guided_grammar", "guided_json_object", "structural_tag",
    "guided_decoding_backend", "guided_whitespace_pattern"⟩

def toList (names : GuidanceNames) : List String :=
  [names.json, names.regex, names.choice, names.grammar, names.jsonObject, names.structuralTag,
    names.backend, names.whitespacePattern]

end GuidanceNames

namespace GuidedDecoding

def decoderWith (names : GuidanceNames) : Decoder GuidedDecoding := fun depth tree => do
  let fields ← Fields.ofTree? names.toList true depth tree
  let json ← fields.optional names.json Decoder.free
  let regex ← fields.optional names.regex Decoder.string
  let choice ← fields.optional names.choice (Decoder.list Decoder.string)
  let grammar ← fields.optional names.grammar Decoder.string
  let jsonObject ← fields.optional names.jsonObject Decoder.bool
  let structuralTag ← fields.optional names.structuralTag Decoder.string
  let backend ← fields.optional names.backend Decoder.string
  let whitespacePattern ← fields.optional names.whitespacePattern Decoder.string
  return { json, regex, choice, grammar, jsonObject, structuralTag, backend, whitespacePattern }

def toJsonWith (names : GuidanceNames) (g : GuidedDecoding) : Json :=
  .object
    [(names.json, Json.ofOption id g.json), (names.regex, Json.ofOption .text g.regex),
     (names.choice, Json.ofOption (Json.ofList .text) g.choice),
     (names.grammar, Json.ofOption .text g.grammar),
     (names.jsonObject, Json.ofOption .bool g.jsonObject),
     (names.structuralTag, Json.ofOption .text g.structuralTag),
     (names.backend, Json.ofOption .text g.backend),
     (names.whitespacePattern, Json.ofOption .text g.whitespacePattern)]

def decoder : Decoder GuidedDecoding := decoderWith .ofParams

def toJson : GuidedDecoding → Json := toJsonWith .ofParams

end GuidedDecoding

namespace GuidedOptions

def decoder : Decoder GuidedOptions := fun depth tree =>
  (GuidedDecoding.decoderWith .ofOptions depth tree).map (⟨·⟩)

def toJson (o : GuidedOptions) : Json := o.guidance.toJsonWith .ofOptions

end GuidedOptions

namespace SamplingParams

def fieldNames : List String :=
  ["n", "temperature", "top_p", "top_k", "min_p", "repetition_penalty", "max_tokens", "logprobs",
   "ignore_eos", "stop_token_ids", "seed", "truncate_prompt_tokens", "guided_decoding", "output_kind"]

def decoder : Decoder SamplingParams := fun depth tree => do
  let base : SamplingParams := {}
  let fields ← Fields.ofTree? fieldNames true depth tree
  let n ← fields.withDefault "n" Decoder.count base.n
  let temperature ← fields.withDefault "temperature" Decoder.single base.temperature
  let topP ← fields.withDefault "top_p" Decoder.single base.topP
  let topK ← fields.withDefault "top_k" Decoder.count.nullable base.topK
  let minP ← fields.withDefault "min_p" Decoder.single base.minP
  let repetitionPenalty ← fields.withDefault "repetition_penalty" Decoder.single base.repetitionPenalty
  let maxTokens ← fields.withDefault "max_tokens" Decoder.count.nullable base.maxTokens
  let logprobs ← fields.withDefault "logprobs" Decoder.count.nullable base.logprobs
  let ignoreEos ← fields.withDefault "ignore_eos" Decoder.bool base.ignoreEos
  let stopTokenIds ← fields.withDefault "stop_token_ids" (Decoder.list Decoder.word32) base.stopTokenIds
  let seed ← fields.withDefault "seed" Decoder.word64.nullable base.seed
  let truncatePromptTokens ←
    fields.withDefault "truncate_prompt_tokens" Decoder.signed64.nullable base.truncatePromptTokens
  let guidedDecoding ←
    fields.withDefault "guided_decoding" GuidedDecoding.decoder.nullable base.guidedDecoding
  let outputKind ← fields.withDefault "output_kind" OutputKind.decoder base.outputKind
  return { n, temperature, topP, topK, minP, repetitionPenalty, maxTokens, logprobs, ignoreEos,
           stopTokenIds, seed, truncatePromptTokens, guidedDecoding, outputKind }

/-- The members of the record, its single-precision numbers written as asked. -/
def members (number : Binary32 → Json) (p : SamplingParams) : List (String × Json) :=
  [("n", Json.ofNat p.n), ("temperature", number p.temperature), ("top_p", number p.topP),
   ("top_k", Json.ofOption Json.ofNat p.topK), ("min_p", number p.minP),
   ("repetition_penalty", number p.repetitionPenalty),
   ("max_tokens", Json.ofOption Json.ofNat p.maxTokens),
   ("logprobs", Json.ofOption Json.ofNat p.logprobs), ("ignore_eos", .bool p.ignoreEos),
   ("stop_token_ids", Json.ofList Json.ofWord32 p.stopTokenIds),
   ("seed", Json.ofOption Json.ofWord64 p.seed),
   ("truncate_prompt_tokens", Json.ofOption Json.ofInt p.truncatePromptTokens),
   ("guided_decoding", Json.ofOption GuidedDecoding.toJson p.guidedDecoding),
   ("output_kind", p.outputKind.toJson)]

def toJson (p : SamplingParams) : Json := .object (p.members Json.ofSingle)

end SamplingParams

namespace PoolingParams

def decoder : Decoder PoolingParams := fun depth tree => do
  let fields ← Fields.ofTree? ["dimensions", "additional_data"] true depth tree
  let dimensions ← fields.optional "dimensions" Decoder.count
  let additionalData ← fields.optional "additional_data" Decoder.free
  return { dimensions, additionalData }

def toJson (p : PoolingParams) : Json :=
  .object [("dimensions", Json.ofOption Json.ofNat p.dimensions),
           ("additional_data", Json.ofOption id p.additionalData)]

end PoolingParams

namespace BeamParams

def decoder : Decoder BeamParams := fun depth tree => do
  let base : BeamParams := {}
  let fields ← Fields.ofTree?
    ["beam_width", "max_tokens", "ignore_eos", "temperature", "length_penalty"] true depth tree
  let beamWidth ← fields.withDefault "beam_width" Decoder.count base.beamWidth
  let maxTokens ← fields.withDefault "max_tokens" Decoder.count base.maxTokens
  let ignoreEos ← fields.withDefault "ignore_eos" Decoder.bool base.ignoreEos
  let temperature ← fields.withDefault "temperature" Decoder.single base.temperature
  let lengthPenalty ← fields.withDefault "length_penalty" Decoder.single base.lengthPenalty
  return { beamWidth, maxTokens, ignoreEos, temperature, lengthPenalty }

def toJson (p : BeamParams) : Json :=
  .object [("beam_width", Json.ofNat p.beamWidth), ("max_tokens", Json.ofNat p.maxTokens),
           ("ignore_eos", .bool p.ignoreEos), ("temperature", Json.ofSingle p.temperature),
           ("length_penalty", Json.ofSingle p.lengthPenalty)]

end BeamParams

namespace Truncation

def decoder : Decoder Truncation := fun depth tree => do
  let fields ← Fields.ofTree? ["truncation", "max_length"] false depth tree
  return ⟨← fields.required "truncation" Decoder.bool, ← fields.required "max_length" Decoder.count⟩

def toJson (t : Truncation) : Json :=
  .object [("truncation", .bool t.enabled), ("max_length", Json.ofNat t.maxLength)]

end Truncation

end BatchInference
