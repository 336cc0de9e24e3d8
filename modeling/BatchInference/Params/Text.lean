import BatchInference.Params.Basic
import BatchInference.Adapter

/-!
Diagnostic text of parameters and adapters, as request records and error messages show them.
-/

namespace BatchInference

open Diagnostic (record wrapped)

instance : Diagnostic OutputKind where
  text
    | .cumulative => "Cumulative"
    | .delta => "Delta"
    | .finalOnly => "FinalOnly"

instance : Diagnostic GuidedDecoding where
  text g := record "GuidedDecodingParams"
    [("json", Diagnostic.text g.json), ("regex", Diagnostic.text g.regex),
     ("choice", Diagnostic.text g.choice), ("grammar", Diagnostic.text g.grammar),
     ("json_object", Diagnostic.text g.jsonObject), ("structural_tag", Diagnostic.text g.structuralTag),
     ("backend", Diagnostic.text g.backend), ("whitespace_pattern", Diagnostic.text g.whitespacePattern)]

instance : Diagnostic GuidedOptions where
  text o :=
    let g := o.guidance
    record "GuidedDecodingRequest"
      [("guided_json", Diagnostic.text g.json), ("guided_regex", Diagnostic.text g.regex),
       ("guided_choice", Diagnostic.text g.choice), ("guided_grammar", Diagnostic.text g.grammar),
       ("guided_json_object", Diagnostic.text g.jsonObject),
       ("structural_tag", Diagnostic.text g.structuralTag),
       ("guided_decoding_backend", Diagnostic.text g.backend),
       ("guided_whitespace_pattern", Diagnostic.text g.whitespacePattern)]

instance : Diagnostic GenerationDefaults where
  text d := record "GenerationDefaults"
    [("temperature", Diagnostic.text d.temperature), ("top_p", Diagnostic.text d.topP),
     ("top_k", Diagnostic.text d.topK), ("min_p", Diagnostic.text d.minP),
     ("repetition_penalty", Diagnostic.text d.repetitionPenalty),
     ("max_tokens", Diagnostic.text d.maxTokens)]

instance : Diagnostic SamplingParams where
  text p := record "SamplingParams"
    [("n", Diagnostic.text p.n), ("temperature", Diagnostic.text p.temperature),
     ("top_p", Diagnostic.text p.topP), ("top_k", Diagnostic.text p.topK),
     ("min_p", Diagnostic.text p.minP), ("repetition_penalty", Diagnostic.text p.repetitionPenalty),
     ("max_tokens", Diagnostic.text p.maxTokens), ("logprobs", Diagnostic.text p.logprobs),
     ("ignore_eos", Diagnostic.text p.ignoreEos), ("stop_token_ids", Diagnostic.text p.stopTokenIds),
     ("seed", Diagnostic.text p.seed),
     ("truncate_prompt_tokens", Diagnostic.text p.truncatePromptTokens),
     ("guided_decoding", Diagnostic.text p.guidedDecoding), ("output_kind", Diagnostic.text p.outputKind)]

instance : Diagnostic PoolingParams where
  text p := record "PoolingParams"
    [("dimensions", Diagnostic.text p.dimensions), ("additional_data", Diagnostic.text p.additionalData)]

instance : Diagnostic RequestParams where
  text
    | .sampling p => wrapped "Sampling" (Diagnostic.text p)
    | .pooling p => wrapped "Pooling" (Diagnostic.text p)

instance : Diagnostic LoraAdapter where
  text a := record "LoRARequest"
    [("lora_name", Diagnostic.text a.name), ("lora_int_id", Diagnostic.text a.id),
     ("lora_path", Diagnostic.text a.path)]

instance : Diagnostic PromptAdapter where
  text a := record "PromptAdapterRequest"
    [("prompt_adapter_name", Diagnostic.text a.name), ("prompt_adapter_id", Diagnostic.text a.id),
     ("prompt_adapter_local_path", Diagnostic.text a.localPath),
     ("prompt_adapter_num_virtual_tokens", Diagnostic.text a.numVirtualTokens)]

instance : Diagnostic SteerVector where
  text v := record "SteerVectorRequest"
    [("steer_vector_name", Diagnostic.text v.name), ("steer_vector_id", Diagnostic.text v.id),
     ("steer_vector_local_path", Diagnostic.text v.localPath), ("scale", Diagnostic.text v.scale),
     ("target_layers", Diagnostic.text v.targetLayers), ("algorithm", Diagnostic.text v.algorithm)]

end BatchInference
