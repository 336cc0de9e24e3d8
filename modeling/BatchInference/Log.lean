import BatchInference.Request
import BatchInference.Params.Text

/-!
Log records, and the record that shows a request before the engine gets it.
-/

namespace BatchInference

inductive LogLevel where
  | warn
  | info
  | debug
  deriving DecidableEq, Repr

structure LogRecord where
  level : LogLevel
  text : String
  deriving DecidableEq, Repr

/-- Shows every request handed to an engine; prompt text and prompt tokens are cut where a limit is set. -/
structure RequestLogger where
  maxLength : Option Nat := none
  deriving DecidableEq, Repr

namespace RequestLogger

/-- At most the allowed number of items, characters or tokens alike. -/
def clip {α : Type} (l : RequestLogger) (items : List α) : List α :=
  match l.maxLength with
  | none => items
  | some limit => items.take limit

def clipText (l : RequestLogger) (s : String) : String := String.ofList (l.clip s.toList)

private def embedsLength : Prompt → Option Nat
  | .embeds rows => some rows.length
  | _ => none

def describe (l : RequestLogger) (r : Request) : String :=
  "Received request " ++ r.id.text ++ ": prompt: " ++ Diagnostic.text (r.prompt.text?.map l.clipText) ++
    ", params: " ++ Diagnostic.text r.params ++
    ", prompt_token_ids: " ++ Diagnostic.text (r.prompt.tokens?.map l.clip) ++
    ", prompt_embeds len: " ++ Diagnostic.text (embedsLength r.prompt) ++
    ", lora_request: " ++ Diagnostic.text r.adapters.lora ++
    ", prompt_adapter_request: " ++ Diagnostic.text r.adapters.promptAdapter ++
    ", steer_vector_request: " ++ Diagnostic.text r.adapters.steerVector ++ "."

def record (l : RequestLogger) (r : Request) : LogRecord := ⟨.info, l.describe r⟩

end RequestLogger

end BatchInference
