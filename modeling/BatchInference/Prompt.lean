import BatchInference.Json.Basic

/-!
Prompts: text, tokens or embeddings, with what travels beside them untouched.
-/

namespace BatchInference

abbrev TokenId := UInt32

/-- What a payload holds, as far as anyone here looks. -/
inductive PayloadContent where
  | text (s : String)
  | number (n : UInt64)
  deriving DecidableEq, Repr

/-- A handle on multimodal data. Copies of a handle share one payload; two payloads with the same content are
still two. -/
structure Payload where
  handle : Nat
  content : PayloadContent
  deriving DecidableEq, Repr

namespace Payload

def same (a b : Payload) : Bool := a.handle = b.handle

def text? (p : Payload) : Option String :=
  match p.content with
  | .text s => some s
  | .number _ => none

def number? (p : Payload) : Option UInt64 :=
  match p.content with
  | .text _ => none
  | .number n => some n

/-- The content of a payload is never shown. -/
instance : Diagnostic Payload := ⟨fun _ => "MultiModalData(..)"⟩

end Payload

/-- Payloads made so far; the next one gets a handle of its own. -/
structure PayloadPool where
  made : Nat := 0

def PayloadPool.add (pool : PayloadPool) (content : PayloadContent) : Payload × PayloadPool :=
  (⟨pool.made, content⟩, ⟨pool.made + 1⟩)

/-- What accompanies a prompt through every step unchanged. -/
structure Companions where
  payload : Option Payload := none
  /-- Settings for the processor of the payload. -/
  processor : Option JsonObject := none

inductive Prompt where
  | text (text : String) (companions : Companions)
  | tokens (ids : List TokenId) (typeIds : Option (List TokenId)) (companions : Companions)
  | embeds (rows : List (List Binary32))

namespace Prompt

def ofText (s : String) : Prompt := .text s {}

def ofTokens (ids : List TokenId) : Prompt := .tokens ids none {}

def text? : Prompt → Option String
  | .text s _ => some s
  | _ => none

def tokens? : Prompt → Option (List TokenId)
  | .tokens ids _ _ => some ids
  | _ => none

def companions : Prompt → Companions
  | .text _ c => c
  | .tokens _ _ c => c
  | .embeds _ => {}

def payload (p : Prompt) : Option Payload := p.companions.payload

/-- Number of positions, where it is known without a tokenizer. -/
def length? : Prompt → Option Nat
  | .text _ _ => none
  | .tokens ids _ _ => some ids.length
  | .embeds rows => some rows.length

end Prompt

end BatchInference
