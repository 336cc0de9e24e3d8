import BatchInference.Engine

/-!
A tokenizer whose tokens are code points, with two tokens set apart: one that ends a sequence and one that stands
between the texts of a pair.
-/

namespace BatchInference.Scripted

structure Alphabet where
  eos : Option TokenId := some 0
  separator : TokenId := 1
  /-- Whether a pair is given with the segment of each token. -/
  segments : Bool := true

namespace Alphabet

def encode (s : String) : List TokenId := s.toList.map (·.val)

/-- Characters of the tokens that are none of the two set apart and name a character at all. -/
def decode (a : Alphabet) (ids : List TokenId) : String :=
  let kept := ids.filter fun id => some id != a.eos && id != a.separator
  String.ofList (kept.filterMap fun id => if h : id.isValidChar then some ⟨id, h⟩ else none)

def encodePair (a : Alphabet) (left right : String) (maxLength : Option Nat) :
    List TokenId × Option (List TokenId) :=
  let left := encode left ++ [a.separator]
  let right := encode right
  let cut (ids : List TokenId) := match maxLength with | none => ids | some limit => ids.take limit
  (cut (left ++ right),
    if a.segments then some (cut (left.map (fun _ => 0) ++ right.map (fun _ => 1))) else none)

def tokenizer (a : Alphabet) : Tokenizer where
  encode := encode
  encodePair := a.encodePair
  decode := a.decode
  eos := a.eos

end Alphabet

end BatchInference.Scripted
