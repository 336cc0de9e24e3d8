import BatchInference.Text.Diagnostic

/-!
JSON values and their compact text. A number keeps the width it was made with, because the width decides which
digits are the shortest; a number that no document can hold is written as `null`.
-/

namespace BatchInference

inductive Json.Number where
  | integer (n : Int)
  | single (x : Binary32)
  | double (x : Binary64)
  deriving Repr, DecidableEq, Inhabited

/-- A JSON value. The members of an object stand in the order in which they are written. -/
inductive Json where
  | null
  | bool (b : Bool)
  | number (n : Json.Number)
  | text (s : String)
  | array (items : List Json)
  | object (members : List (String × Json))
  deriving Repr, Inhabited

/-- The members of a free object, in rising order of their names. -/
abbrev JsonObject := List (String × Json)

namespace Json

/-- Puts a member where its name belongs among members in rising order, in place of one of that name. -/
def insertMember (name : String) (value : Json) : JsonObject → JsonObject
  | [] => [(name, value)]
  | m :: rest =>
    if name < m.1 then (name, value) :: m :: rest
    else if name = m.1 then (name, value) :: rest
    else m :: insertMember name value rest

/-- Members in rising order of their names; of several with one name the last stays. -/
def sortedMembers (members : List (String × Json)) : JsonObject :=
  members.foldl (fun sorted m => insertMember m.1 m.2 sorted) []

def Number.text : Number → String
  | .integer n => toString n
  | .single x => if x.isFinite then x.text .jsonSingle else "null"
  | .double x => if x.isFinite then x.text .jsonDouble else "null"

def hex4 (n : Nat) : List Char :=
  let ds := Nat.toDigits 16 n
  List.replicate (4 - ds.length) '0' ++ ds

/-- A character as it stands in a JSON string: only quotes, backslashes and control characters are escaped. -/
def escape (c : Char) : List Char :=
  if c = '"' then ['\\', '"']
  else if c = '\\' then ['\\', '\\']
  else if c = '\n' then ['\\', 'n']
  else if c = '\r' then ['\\', 'r']
  else if c = '\t' then ['\\', 't']
  else if c = '\x08' then ['\\', 'b']
  else if c = '\x0c' then ['\\', 'f']
  else if c < ' ' then '\\' :: 'u' :: hex4 c.toNat
  else [c]

def quoted (s : String) : String :=
  String.ofList ('"' :: s.toList.flatMap escape ++ ['"'])

mutual

/-- Compact text: no blanks, members as they stand. -/
def compact : Json → String
  | .null => "null"
  | .bool b => if b then "true" else "false"
  | .number n => n.text
  | .text s => quoted s
  | .array items => "[" ++ ",".intercalate (compactItems items) ++ "]"
  | .object members => "\x7b" ++ ",".intercalate (compactMembers members) ++ "\x7d"

def compactItems : List Json → List String
  | [] => []
  | item :: rest => compact item :: compactItems rest

def compactMembers : List (String × Json) → List String
  | [] => []
  | (name, value) :: rest => (quoted name ++ ":" ++ compact value) :: compactMembers rest

end

mutual

/-- Diagnostic text, which names the kind of every value. -/
def diagnostic : Json → String
  | .null => "Null"
  | .bool b => Diagnostic.wrapped "Bool" (Diagnostic.text b)
  | .number n => Diagnostic.wrapped "Number" n.text
  | .text s => Diagnostic.wrapped "String" (Diagnostic.quoted s)
  | .array items => "Array [" ++ ", ".intercalate (diagnosticItems items) ++ "]"
  | .object members => "Object \x7b" ++ ", ".intercalate (diagnosticMembers members) ++ "\x7d"

def diagnosticItems : List Json → List String
  | [] => []
  | item :: rest => diagnostic item :: diagnosticItems rest

def diagnosticMembers : List (String × Json) → List String
  | [] => []
  | (name, value) :: rest => (Diagnostic.quoted name ++ ": " ++ diagnostic value) :: diagnosticMembers rest

end

instance : Diagnostic Json := ⟨diagnostic⟩

end Json

end BatchInference
