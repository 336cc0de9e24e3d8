/-!
Request ids and the counter they are drawn from. The counter is one word wide and starts again at zero after its
last value, so a counter that has been drawn from `n` times stands at its start plus `n`.
-/

namespace BatchInference

/-- The number a request is known by, from its submission to its result. -/
structure RequestId where
  value : UInt64
  deriving DecidableEq, Repr, Inhabited, Hashable

namespace RequestId

def text (id : RequestId) : String := toString id.value.toNat

def le (a b : RequestId) : Bool := a.value ≤ b.value

end RequestId

/-- Where request ids come from. Several services may draw from one counter. -/
structure IdCounter where
  next : UInt64
  deriving DecidableEq, Repr, Inhabited

namespace IdCounter

def startingAt (start : UInt64) : IdCounter := ⟨start⟩

def peek (c : IdCounter) : RequestId := ⟨c.next⟩

/-- Draws an id: each id is given once before the counter comes round. -/
def draw (c : IdCounter) : RequestId × IdCounter := (⟨c.next⟩, ⟨c.next + 1⟩)

end IdCounter

end BatchInference
