import BatchInference.Broadcast

/-!
The shapes in which callers hand over the prompts of a call. All of them come down to one ordered list.
-/

namespace BatchInference

inductive PromptInput where
  | single (prompt : Prompt)
  | batch (prompts : List Prompt)
  /-- Texts and token lists given apart, which is deprecated. Where both are given the texts count. -/
  | split (texts : Option (List String)) (tokens : Option (List (List TokenId)))

namespace PromptInput

def isDeprecated : PromptInput → Bool
  | .split .. => true
  | _ => false

def normalize : PromptInput → Except CallError (List Prompt)
  | .single prompt => .ok [prompt]
  | .batch prompts => .ok prompts
  | .split none none => .error (.invalidInput .noPrompts)
  | .split (some texts) (some tokens) =>
    if texts.length = tokens.length then .ok (texts.map .ofText) else .error (.invalidInput .splitLengths)
  | .split (some texts) none => .ok (texts.map .ofText)
  | .split none (some tokens) => .ok (tokens.map .ofTokens)

/-- What the caller of a deprecated shape is told. -/
def deprecation : String :=
  "Passing `prompts` and `prompt_token_ids` separately is deprecated; pass a list of prompts instead"

end PromptInput

/-- One priority for each of `n` prompts, zero where the caller gives none. -/
def resolvePriorities (n : Nat) : Option (List Int32) → Except CallError (List Int32)
  | none => .ok (List.replicate n 0)
  | some values =>
    if values.length = n then .ok values else .error (.shapeMismatch "priority" n values.length)

end BatchInference
