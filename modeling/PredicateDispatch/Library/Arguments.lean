import PredicateDispatch.Error

/-!
# Reading arguments

Dispatch has checked the tags of the arguments.  A tag can be put on any payload, so each argument's
payload is checked again where it is read.
-/

namespace PredicateDispatch.Arguments

def value (arguments : List Value) (index : Nat) : Except Error Value :=
  match arguments[index]? with
  | some value => .ok value
  | none => .error (.argument (.missing index arguments.length))

/-- The payload of an argument, read as something that it should be. -/
def read {α : Type} (view : Payload → Option α) (expected : Expectation) (arguments : List Value)
    (index : Nat) : Except Error α :=
  match value arguments index with
  | .error error => .error error
  | .ok value =>
    match view value.payload with
    | some result => .ok result
    | none => .error (.type (.mismatch expected value.payload))

def int : List Value → Nat → Except Error Int :=
  read Payload.int? .integer

def real : List Value → Nat → Except Error Float :=
  read Payload.real? .number

def text : List Value → Nat → Except Error String :=
  read Payload.text? .text

def list : List Value → Nat → Except Error (List Value) :=
  read Payload.list? .list

def map : List Value → Nat → Except Error (List Binding) :=
  read Payload.map? .map

def predicate : List Value → Nat → Except Error Predicate :=
  read Payload.predicate? .predicate

def character : List Value → Nat → Except Error Char :=
  read Payload.char? .character

/-- The greatest index that a bounds failure can report. -/
def greatestIndex : Int := 0x7fffffffffffffff

/-- The index as a bounds failure reports it: all that does not fit becomes the greatest one. -/
def reportedIndex (n : Int) : Int :=
  if -0x8000000000000000 ≤ n ∧ n ≤ greatestIndex then n else greatestIndex

/-- A position in a collection of `length` elements. -/
def position (arguments : List Value) (index length : Nat) : Except Error Nat :=
  match int arguments index with
  | .error error => .error error
  | .ok n =>
    if 0 ≤ n ∧ n < length then .ok n.toNat else .error (.bounds (reportedIndex n) length)

end PredicateDispatch.Arguments
