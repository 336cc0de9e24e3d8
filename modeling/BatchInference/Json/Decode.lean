import BatchInference.Json.Tree

/-!
Reading values out of documents. A decoder takes how many more levels of arrays and objects it may enter and
gives no value where the document does not have the form asked for. Records are given as objects, in which
unknown members are skipped and known ones may not be given twice, or as arrays of their fields in order.
-/

namespace BatchInference.Json

/-- How many levels of arrays and objects a document may have where it is read. -/
def nestingLimit : Nat := 127

abbrev Decoder (α : Type) := (depth : Nat) → Tree → Option α

mutual

/-- A free value. Of members with one name the last stays, and members are put in order. -/
def Tree.toJson? : (depth : Nat) → Tree → Option Json
  | _, .null => some .null
  | _, .bool b => some (.bool b)
  | _, .number l => l.value?.map .number
  | _, .text units => (TextUnit.string? units).map .text
  | 0, .array _ => none
  | 0, .object _ => none
  | depth + 1, .array items => (Tree.itemsToJson? depth items).map .array
  | depth + 1, .object members =>
    (Tree.membersToJson? depth members).map fun members => .object (sortedMembers members)

def Tree.itemsToJson? : (depth : Nat) → List Tree → Option (List Json)
  | _, [] => some []
  | depth, item :: rest => do
    let item ← Tree.toJson? depth item
    return item :: (← Tree.itemsToJson? depth rest)

def Tree.membersToJson? : (depth : Nat) → List (List TextUnit × Tree) → Option (List (String × Json))
  | _, [] => some []
  | depth, (name, value) :: rest => do
    let name ← TextUnit.string? name
    let value ← Tree.toJson? depth value
    return (name, value) :: (← Tree.membersToJson? depth rest)

end

namespace Decoder

def free : Decoder Json := Tree.toJson?

def freeObject : Decoder JsonObject := fun depth tree =>
  match free depth tree with
  | some (.object members) => some members
  | _ => none

def bool : Decoder Bool
  | _, .bool b => some b
  | _, _ => none

def string : Decoder String
  | _, .text units => TextUnit.string? units
  | _, _ => none

def number : Decoder Json.Number
  | _, .number l => l.value?
  | _, _ => none

/-- A whole number from `least` up to below `limit`. -/
def integer (least limit : Int) : Decoder Int := fun depth tree =>
  match number depth tree with
  | some (.integer n) => if least ≤ n ∧ n < limit then some n else none
  | _ => none

def count : Decoder Nat := fun depth tree => (integer 0 UInt64.size depth tree).map Int.toNat

def word32 : Decoder UInt32 := fun depth tree => (integer 0 UInt32.size depth tree).map fun n => .ofNat n.toNat

def word64 : Decoder UInt64 := fun depth tree => (integer 0 UInt64.size depth tree).map fun n => .ofNat n.toNat

def signed64 : Decoder Int := integer (-0x8000000000000000) 0x8000000000000000

/-- A single-precision number; a whole number is rounded directly. -/
def single : Decoder Binary32 := fun depth tree =>
  match number depth tree with
  | some (.integer n) => some (.ofInt n)
  | some (.double x) => some (.ofBinary64 x)
  | some (.single x) => some x
  | none => none

def nullable {α : Type} (decode : Decoder α) : Decoder (Option α) := fun depth tree =>
  match tree with
  | .null => some none
  | tree => (decode depth tree).map some

def list {α : Type} (decode : Decoder α) : Decoder (List α)
  | depth + 1, .array items => items.mapM (decode depth)
  | _, _ => none

/-- One of several named cases, as its name or as the only member of an object, with `null` beside it. -/
def oneOf {α : Type} (cases : List (String × α)) : Decoder α
  | _, .text units => do cases.lookup (← TextUnit.string? units)
  | _ + 1, .object [(name, .null)] => do cases.lookup (← TextUnit.string? name)
  | _, _ => none

end Decoder

/-- What a document says about a record: the fields it gives, and how deep their values may nest. -/
structure Fields where
  given : List (String × Tree)
  depth : Nat

namespace Fields

/-- Collects the members of an object that a record knows; refuses one that is given twice. -/
def ofMembers? (names : List String) :
    List (List TextUnit × Tree) → (found : List (String × Tree)) → Option (List (String × Tree))
  | [], found => some found
  | (name, value) :: rest, found => do
    let name ← TextUnit.string? name
    if names.contains name then
      if (found.lookup name).isSome then none else ofMembers? names rest ((name, value) :: found)
    else ofMembers? names rest found

/-- The fields of a record given as an object, or as an array of values in the order of the names. Where
`lenient`, the array may stop early. -/
def ofTree? (names : List String) (lenient : Bool) : Decoder Fields
  | depth + 1, .object members => (ofMembers? names members []).map (⟨·, depth⟩)
  | depth + 1, .array items =>
    if items.length = names.length || (lenient && decide (items.length < names.length)) then
      some ⟨names.zip items, depth⟩
    else none
  | _, _ => none

def required {α : Type} (fields : Fields) (name : String) (decode : Decoder α) : Option α := do
  decode fields.depth (← fields.given.lookup name)

/-- A field that has a value also where it is not given. -/
def withDefault {α : Type} (fields : Fields) (name : String) (decode : Decoder α) (value : α) : Option α :=
  match fields.given.lookup name with
  | none => some value
  | some tree => decode fields.depth tree

/-- A field that may be left out or `null`. -/
def optional {α : Type} (fields : Fields) (name : String) (decode : Decoder α) : Option (Option α) :=
  fields.withDefault name decode.nullable none

end Fields

/-- Reads a document that holds one value of the given form. -/
def decode? {α : Type} (decode : Decoder α) (text : String) : Option α := do
  decode nestingLimit (← Tree.parse? text)

end BatchInference.Json
