import PredicateDispatch.Program
import PredicateDispatch.Value.Equality

/-!
# Calls and casts

A call selects an entry by the types of its arguments and runs it, or else the default.  Its answer must
have the declared return type: it has it by its own type, or is given it when the membership test of
that type accepts the answer.  A checked cast is the same with another failure.
-/

namespace PredicateDispatch

variable {Code : Type}

/-- The entry selected for the arguments, or else the default, as a task. -/
def GenericFunction.task? (function : GenericFunction Code) (selected : Option (MethodEntry Code)) :
    Option (Task Code) :=
  match selected, function.fallback with
  | some entry, _ => some (.typed function.name entry.returns entry.implementation)
  | none, some fallback => some (.typed function.name fallback.returns fallback.implementation)
  | none, none => none

namespace GenericFunction

/-- The failure of a call that no entry accepts. -/
def noImplementation (function : GenericFunction Code) (types : Signature) : Error :=
  .noImplementation function.name types function.signatures

end GenericFunction

namespace Program

def call (id : Nat) (arguments : List Value) : Program Code Value := do
  let types := arguments.map Value.type
  let function ← function id
  let selected ← resolve id types false
  match function.task? selected with
  | some task => run task arguments
  | none => throw (function.noImplementation types)

def callNamed (name : String) (arguments : List Value) : Program Code Value := do
  call (← functionNamed name) arguments

/-- Asks the membership test of `expected` about a value.  No test, and no entry for the value, mean
no. -/
def isCoercible (expected : Predicate) (value : Value) : Program Code Bool := do
  match (← inspect).membershipTest? expected with
  | none => return false
  | some test =>
    try
      let answer ← call test [value]
      return answer.payload.boolean? == some true
    catch
      | .noImplementation _ _ _ => return false
      | error => throw error

/-- A value that has the expected type already is left as it is, and one that the membership test
accepts is tagged with it. -/
def coerce (expected : Predicate) (value : Value) (failure : Error) : Program Code Value := do
  if (← inspect).isA expected value.type then
    return value
  else if ← isCoercible expected value then
    return value.retag expected
  else
    throw failure

def cast (expected : Predicate) (value : Value) : Program Code Value :=
  coerce expected value (.cast value.type expected)

/-- Holds the answer of a function to its declared type. -/
def castOrFail (function : String) (expected : Predicate) (value : Value) : Program Code Value :=
  coerce expected value (.returnType function expected value.type)

/-- A function as data.  A membership test is the predicate that it tests. -/
def functionValue (id : Nat) : Program Code Value := do
  let function ← function id
  match function.predicate? with
  | some type => return .predicate type
  | none => return .function (.generic id function.name)

/-- Calls a function value; a predicate stands for its membership test. -/
def apply (callee : Value) (arguments : List Value) : Program Code Value := do
  match callee.payload with
  | .function (.generic id _) => call id arguments
  | .function (.closure identity _) => request (.runClosure identity arguments)
  | .predicate type =>
    match (← inspect).membershipTest? type with
    | some test => call test arguments
    | none => throw (.type (.noMembershipTest type))
  | other => throw (.type (.notCallable other))

end Program

namespace Task

/-- The program that a task stands for, given what code means. -/
def program (meaning : Code → List Value → Program Code Value) :
    Task Code → List Value → Program Code Value
  | typed function returns (.answer truth), _ =>
    Program.castOrFail function returns (.boolean truth)
  | typed function returns (.code body), arguments => do
    Program.castOrFail function returns (← meaning body arguments)
  | plain body, arguments => meaning body arguments

end Task

end PredicateDispatch
