/-!
# JSON documents and their written form

A document is written over several lines, two blanks for each level.  Only natural numbers and proper
texts are of interest; other numbers and texts with half of a surrogate pair are kept apart, and each
kind has a written form of its own.
-/

namespace PredicateDispatch

mutual

inductive Json where
  | null
  | boolean (truth : Bool)
  /-- `none` for a number that is not written as a natural one. -/
  | number (natural : Option Nat)
  /-- `none` for a text with half of a surrogate pair. -/
  | text (characters : Option String)
  | list (items : List Json)
  | object (fields : List Json.Field)

structure Json.Field where
  key : Option String
  value : Json

end

namespace Json

/-- One of the sixteen digits, in lower case. -/
def hexDigit (n : Nat) : Char :=
  Nat.digitChar (n % 16)

/-- A character inside a text. -/
def writeChar (c : Char) : List Char :=
  match c with
  | '"' => ['\\', '"']
  | '\\' => ['\\', '\\']
  | '\x08' => ['\\', 'b']
  | '\x0c' => ['\\', 'f']
  | '\n' => ['\\', 'n']
  | '\r' => ['\\', 'r']
  | '\t' => ['\\', 't']
  | _ =>
    if c.toNat < 32 then ['\\', 'u', '0', '0', hexDigit (c.toNat / 16), hexDigit c.toNat]
    else [c]

def writeText : Option String → List Char
  | some characters => '"' :: characters.toList.flatMap writeChar ++ ['"']
  | none => ['"', '\\', 'u', 'd', '8', '0', '0', '"']

def writeNumber : Option Nat → List Char
  | some n => Nat.toDigits 10 n
  | none => ['-', '0']

def newline (depth : Nat) : List Char :=
  '\n' :: List.replicate (2 * depth) ' '

mutual

def write (depth : Nat) : Json → List Char
  | .null => ['n', 'u', 'l', 'l']
  | .boolean true => ['t', 'r', 'u', 'e']
  | .boolean false => ['f', 'a', 'l', 's', 'e']
  | .number natural => writeNumber natural
  | .text characters => writeText characters
  | .list [] => ['[', ']']
  | .list (item :: items) =>
    '[' :: newline (depth + 1) ++ item.write (depth + 1) ++ writeItems (depth + 1) items ++
      newline depth ++ [']']
  | .object [] => ['\x7b', '\x7d']
  | .object (field :: fields) =>
    '\x7b' :: newline (depth + 1) ++ field.write (depth + 1) ++ writeFields (depth + 1) fields ++
      newline depth ++ ['\x7d']
termination_by structural json => json

def Field.write (depth : Nat) : Field → List Char
  | ⟨key, value⟩ => writeText key ++ ':' :: ' ' :: value.write depth
termination_by structural field => field

/-- The items after the first. -/
def writeItems (depth : Nat) : List Json → List Char
  | [] => []
  | item :: items => ',' :: newline depth ++ item.write depth ++ writeItems depth items
termination_by structural items => items

/-- The fields after the first. -/
def writeFields (depth : Nat) : List Field → List Char
  | [] => []
  | field :: fields => ',' :: newline depth ++ field.write depth ++ writeFields depth fields
termination_by structural fields => fields

end

def render (json : Json) : String :=
  String.ofList (json.write 0)

end Json

end PredicateDispatch
