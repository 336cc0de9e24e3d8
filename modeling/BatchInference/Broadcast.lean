import BatchInference.Params.Verify

/-!
Arguments that a caller gives once for a whole batch or once per prompt.
-/

namespace BatchInference

inductive Broadcast (α : Type) where
  | one (value : α)
  | each (values : List α)
  deriving Repr

namespace Broadcast

variable {α β : Type}

/-- One value for each of `n` prompts. -/
def resolve (argument : String) (n : Nat) : Broadcast α → Except CallError (List α)
  | .one value => .ok (List.replicate n value)
  | .each values =>
    if values.length = n then .ok values else .error (.shapeMismatch argument n values.length)

/-- Whether the argument fits `n` prompts. -/
def checkLength (argument : String) (n : Nat) : Broadcast α → Except CallError Unit
  | .one _ => .ok ()
  | .each values =>
    if values.length = n then .ok () else .error (.shapeMismatch argument n values.length)

/-- Applies a conversion with effects to the values in order, keeping the shape. One that can fail is applied up
to its first failure. -/
def traverse {m : Type → Type} [Monad m] (f : α → m β) : Broadcast α → m (Broadcast β)
  | .one value => return .one (← f value)
  | .each values => return .each (← values.mapM f)

def map (f : α → β) : Broadcast α → Broadcast β
  | .one value => .one (f value)
  | .each values => .each (values.map f)

end Broadcast

end BatchInference
