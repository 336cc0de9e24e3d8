import BatchInference.Json.NumberLiteral

/-!
Documents as written. A tree keeps what the text says before anything is decided about it: members given twice,
numbers beyond every width, escapes that name half a pair. So a reader of a record can skip a member it does not
know without asking whether the member has a value, and can refuse one that is given twice.
-/

namespace BatchInference.Json

/-- A character written as itself or by a simple escape, or a 16-bit code written by number. -/
inductive TextUnit where
  | char (c : Char)
  | code (n : Nat)
  deriving Repr

inductive Tree where
  | null
  | bool (b : Bool)
  | number (literal : NumberLiteral)
  | text (units : List TextUnit)
  | array (items : List Tree)
  | object (members : List (List TextUnit × Tree))
  deriving Repr, Inhabited

/-- The characters a string stands for: the codes of a pair make one character, half a pair makes none. -/
def TextUnit.chars? : List TextUnit → Option (List Char)
  | [] => some []
  | .char c :: rest => (chars? rest).map (c :: ·)
  | .code high :: .code low :: rest =>
    if 0xD800 ≤ high ∧ high < 0xDC00 then
      if 0xDC00 ≤ low ∧ low < 0xE000 then
        (chars? rest).map (Char.ofNat (0x10000 + (high - 0xD800) * 0x400 + (low - 0xDC00)) :: ·)
      else none
    else if 0xDC00 ≤ high ∧ high < 0xE000 then none
    else (chars? (.code low :: rest)).map (Char.ofNat high :: ·)
  | .code n :: rest =>
    if 0xD800 ≤ n ∧ n < 0xE000 then none else (chars? rest).map (Char.ofNat n :: ·)

def TextUnit.string? (units : List TextUnit) : Option String :=
  (chars? units).map String.ofList

namespace Tree

/-- A reader takes what it wants from the front of the text and hands back the rest. -/
abbrev Reader (α : Type) := List Char → Option (α × List Char)

def isBlank (c : Char) : Bool := c = ' ' || c = '\n' || c = '\t' || c = '\r'

def skipBlanks (cs : List Char) : List Char := cs.dropWhile isBlank

def digit? (c : Char) : Option Nat :=
  if '0' ≤ c ∧ c ≤ '9' then some (c.toNat - '0'.toNat) else none

def hexDigit? (c : Char) : Option Nat :=
  if '0' ≤ c ∧ c ≤ '9' then some (c.toNat - '0'.toNat)
  else if 'a' ≤ c ∧ c ≤ 'f' then some (c.toNat - 'a'.toNat + 10)
  else if 'A' ≤ c ∧ c ≤ 'F' then some (c.toNat - 'A'.toNat + 10)
  else none

def readDigits (cs : List Char) : List Nat × List Char :=
  ((cs.takeWhile (digit? · |>.isSome)).filterMap digit?, cs.dropWhile (digit? · |>.isSome))

def readSomeDigits : Reader (List Nat) := fun cs =>
  match readDigits cs with
  | ([], _) => none
  | found => some found

def readFraction : Reader (Option (List Nat))
  | '.' :: rest => (readSomeDigits rest).map fun (ds, rest) => (some ds, rest)
  | rest => some (none, rest)

def readExponent : Reader (Option (Bool × List Nat))
  | c :: rest =>
    if c = 'e' ∨ c = 'E' then
      let (down, rest) :=
        match rest with
        | '-' :: rest => (true, rest)
        | '+' :: rest => (false, rest)
        | rest => (false, rest)
      (readSomeDigits rest).map fun (ds, rest) => (some (down, ds), rest)
    else some (none, c :: rest)
  | [] => some (none, [])

/-- A number; one with several digits does not begin with a zero. -/
def readNumber : Reader NumberLiteral := fun cs => do
  let (negative, cs) := match cs with | '-' :: rest => (true, rest) | rest => (false, rest)
  let (whole, cs) ← readSomeDigits cs
  guard !(whole.head? = some 0 && 1 < whole.length)
  let (fraction, cs) ← readFraction cs
  let (exponent, cs) ← readExponent cs
  return (⟨negative, whole, fraction, exponent⟩, cs)

def readEscape : Reader TextUnit
  | 'u' :: a :: b :: c :: d :: rest => do
    let a ← hexDigit? a
    let b ← hexDigit? b
    let c ← hexDigit? c
    let d ← hexDigit? d
    return (.code (((a * 16 + b) * 16 + c) * 16 + d), rest)
  | c :: rest =>
    match c with
    | '"' => some (.char '"', rest)
    | '\\' => some (.char '\\', rest)
    | '/' => some (.char '/', rest)
    | 'b' => some (.char '\x08', rest)
    | 'f' => some (.char '\x0c', rest)
    | 'n' => some (.char '\n', rest)
    | 'r' => some (.char '\r', rest)
    | 't' => some (.char '\t', rest)
    | _ => none
  | [] => none

/-- The inside of a string up to and with its closing quote; a control character is no part of one. -/
def readUnits : (fuel : Nat) → Reader (List TextUnit)
  | 0, _ => none
  | _, [] => none
  | fuel + 1, c :: rest =>
    if c = '"' then some ([], rest)
    else if c = '\\' then do
      let (unit, rest) ← readEscape rest
      let (units, rest) ← readUnits fuel rest
      return (unit :: units, rest)
    else if c < ' ' then none
    else do
      let (units, rest) ← readUnits fuel rest
      return (.char c :: units, rest)

/-- A string that is next, blanks aside. -/
def readText (cs : List Char) : Option (List TextUnit × List Char) :=
  match skipBlanks cs with
  | '"' :: rest => readUnits (rest.length + 1) rest
  | _ => none

def readWord : List Char → List Char → Option (List Char)
  | [], cs => some cs
  | w :: word, c :: cs => if w = c then readWord word cs else none
  | _ :: _, [] => none

mutual

/-- One value and the blanks before it; `fuel` bounds the number of values and members. -/
def readValue : (fuel : Nat) → Reader Tree
  | 0, _ => none
  | fuel + 1, cs =>
    match skipBlanks cs with
    | 'n' :: rest => (readWord ['u', 'l', 'l'] rest).map (Tree.null, ·)
    | 't' :: rest => (readWord ['r', 'u', 'e'] rest).map (Tree.bool true, ·)
    | 'f' :: rest => (readWord ['a', 'l', 's', 'e'] rest).map (Tree.bool false, ·)
    | '"' :: rest => (readUnits (rest.length + 1) rest).map fun (units, rest) => (Tree.text units, rest)
    | '[' :: rest =>
      match skipBlanks rest with
      | ']' :: rest => some (Tree.array [], rest)
      | rest => (readItems fuel rest).map fun (items, rest) => (Tree.array items, rest)
    | '\x7b' :: rest =>
      match skipBlanks rest with
      | '\x7d' :: rest => some (Tree.object [], rest)
      | rest => (readMembers fuel rest).map fun (members, rest) => (Tree.object members, rest)
    | cs => (readNumber cs).map fun (literal, rest) => (Tree.number literal, rest)

/-- The items of an array that has some, up to and with the closing bracket. -/
def readItems : (fuel : Nat) → Reader (List Tree)
  | 0, _ => none
  | fuel + 1, cs => do
    let (item, rest) ← readValue fuel cs
    match skipBlanks rest with
    | ']' :: rest => return ([item], rest)
    | ',' :: rest =>
      let (items, rest) ← readItems fuel rest
      return (item :: items, rest)
    | _ => none

/-- The members of an object that has some, up to and with the closing brace. -/
def readMembers : (fuel : Nat) → Reader (List (List TextUnit × Tree))
  | 0, _ => none
  | fuel + 1, cs => do
    let (name, rest) ← readText cs
    match skipBlanks rest with
    | ':' :: rest =>
      let (value, rest) ← readValue fuel rest
      match skipBlanks rest with
      | '\x7d' :: rest => return ([(name, value)], rest)
      | ',' :: rest =>
        let (members, rest) ← readMembers fuel rest
        return ((name, value) :: members, rest)
      | _ => none
    | _ => none

end

/-- Reads a whole document: one value, with nothing but blanks around it. -/
def parse? (text : String) : Option Tree := do
  let cs := text.toList
  let (tree, rest) ← readValue (2 * cs.length + 2) cs
  guard (skipBlanks rest).isEmpty
  return tree

end Tree

end BatchInference.Json
