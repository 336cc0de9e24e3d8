import BatchInference.Num.DecimalText
import BatchInference.Text.Shapeless

/-!
Diagnostic text: how values are shown in log records and error messages. Records name their fields, text stands
in quotes with everything that could be misread escaped, and an optional value says which it is.
-/

namespace BatchInference

class Diagnostic (α : Type) where
  text : α → String

namespace Diagnostic

/-- A character as it stands between quotes. -/
def escape (c : Char) : List Char :=
  if c = '\x00' then ['\\', '0']
  else if c = '\t' then ['\\', 't']
  else if c = '\n' then ['\\', 'n']
  else if c = '\r' then ['\\', 'r']
  else if c = '"' then ['\\', '"']
  else if c = '\\' then ['\\', '\\']
  else if Text.isShapeless c then
    ['\\', 'u', '\x7b'] ++ Nat.toDigits 16 c.toNat ++ ['\x7d']
  else [c]

def quoted (s : String) : String :=
  String.ofList ('"' :: s.toList.flatMap escape ++ ['"'])

/-- A record: its name and its fields in order. -/
def record (name : String) (fields : List (String × String)) : String :=
  name ++ " \x7b " ++ ", ".intercalate (fields.map fun f => f.1 ++ ": " ++ f.2) ++ " \x7d"

/-- One of several named cases around a value. -/
def wrapped (name : String) (inner : String) : String := name ++ "(" ++ inner ++ ")"

instance : Diagnostic Nat := ⟨toString⟩
instance : Diagnostic Int := ⟨toString⟩
instance : Diagnostic UInt32 := ⟨fun n => toString n.toNat⟩
instance : Diagnostic UInt64 := ⟨fun n => toString n.toNat⟩
instance : Diagnostic Bool := ⟨fun b => if b then "true" else "false"⟩
instance : Diagnostic String := ⟨quoted⟩
instance : Diagnostic Binary32 := ⟨Binary32.text .diagnostic⟩

instance {α : Type} [Diagnostic α] : Diagnostic (Option α) where
  text
    | none => "None"
    | some a => wrapped "Some" (text a)

instance {α : Type} [Diagnostic α] : Diagnostic (List α) where
  text as := "[" ++ ", ".intercalate (as.map text) ++ "]"

end Diagnostic

end BatchInference
