import BatchInference.Num.Binary32

/-!
Adapters a request may name. They are handles: everything here passes them on as they are.
-/

namespace BatchInference

structure LoraAdapter where
  name : String
  id : UInt32
  path : String
  deriving DecidableEq, Repr

structure PromptAdapter where
  name : String
  id : UInt32
  localPath : String
  numVirtualTokens : Nat
  deriving DecidableEq, Repr

structure SteerVector where
  name : String
  id : UInt32
  localPath : String
  scale : Binary32
  targetLayers : Option (List Nat)
  algorithm : String
  deriving DecidableEq, Repr

structure Adapters where
  lora : Option LoraAdapter := none
  promptAdapter : Option PromptAdapter := none
  steerVector : Option SteerVector := none
  deriving DecidableEq, Repr

end BatchInference
