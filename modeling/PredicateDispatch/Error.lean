import PredicateDispatch.Hierarchy
import PredicateDispatch.Value.Display
import PredicateDispatch.Value.Inspect

/-!
# Failures

Every failure is a cause with the data it is about; the wording is in `Error.message` alone.
-/

namespace PredicateDispatch

/-- What a payload should have been. -/
inductive Expectation where
  | integer
  | number
  | text
  | list
  | map
  | predicate
  | character
  | function
deriving DecidableEq, Repr

def Expectation.phrase : Expectation → String
  | integer => "an integer"
  | number => "a number"
  | text => "a string"
  | list => "a list"
  | map => "a map"
  | predicate => "a predicate"
  | character => "a character"
  | function => "a function"

/-- A payload of a kind that an operation cannot use. -/
inductive TypeFault where
  | mismatch (expected : Expectation) (found : Payload)
  | notBoolean
  | noLength (found : Payload)
  | notCallable (found : Payload)
  /-- The text function answered with something else. -/
  | notText (found : Payload)
  | incomparable (left right : Payload)
  | noMembershipTest (type : Predicate)
  | stated (message : String)

def TypeFault.message : TypeFault → String
  | mismatch expected found => "expected " ++ expected.phrase ++ ", got " ++ found.inspect
  | notBoolean => "expected a boolean"
  | noLength found => found.inspect ++ " has no length"
  | notCallable found => found.inspect ++ " is not callable"
  | notText found => "str returned " ++ found.inspect ++ " instead of a string"
  | incomparable left right => "cannot compare " ++ left.inspect ++ " and " ++ right.inspect
  | noMembershipTest type => type.name ++ " has no membership test"
  | stated message => message

/-- An argument list or a number that an operation has no answer for. -/
inductive ArgumentFault where
  /-- The argument at `index` is asked for, but there are only `count`. -/
  | missing (index count : Nat)
  | negativePower (exponent : Int)
  | hugePower (exponent : Int)
  | notFinite (x : Float)
  | stated (message : String)

def ArgumentFault.message : ArgumentFault → String
  | missing index count =>
    "expected at least " ++ toString (index + 1) ++ " arguments, got " ++ toString count
  | negativePower exponent =>
    "cannot raise an integer to the negative power " ++ toString exponent
  | hugePower exponent => "exponent " ++ toString exponent ++ " is too large"
  | notFinite x => "cannot convert " ++ Decimal.plain x ++ " to an integer"
  | stated message => message

def LinkError.message : LinkError → String
  | reparent child parent existing =>
    "HierarchyError: cannot derive " ++ child.name ++ " from " ++ parent.name ++
      ": it already derives from " ++ existing.name
  | cycle child parent =>
    "HierarchyError: cannot derive " ++ child.name ++ " from " ++ parent.name ++
      ": the link would create a cycle"

inductive Error where
  | link (cause : LinkError)
  /-- No entry accepts the types and the function has no default. -/
  | noImplementation (function : String) (types : Signature) (candidates : List Signature)
  /-- Several entries are nearest. -/
  | ambiguous (function : String) (types : Signature) (candidates : List Signature)
  | returnType (function : String) (expected actual : Predicate)
  | cast (source target : Predicate)
  | type (fault : TypeFault)
  | argument (fault : ArgumentFault)
  | bounds (index : Int) (length : Nat)
  | divisionByZero
  | unknownFunction (name : String)
  | io (message : String)
  /-- A text is not a report. -/
  | serialization
  /-- A script asks for something that it cannot name or that does not exist. -/
  | invalidScript

namespace Error

def candidateLines (function : String) (candidates : List Signature) : String :=
  String.join (candidates.map fun signature => "\n  " ++ function ++ signature.text)

def noImplementationText (function : String) (types : Signature)
    (candidates : List Signature) : String :=
  "MethodError: no implementation of " ++ function ++ types.text ++
    (if candidates.isEmpty then "" else "\nImplemented for:" ++ candidateLines function candidates)

/-- The text of a failure, if it has one. -/
def message : Error → Option String
  | link cause => cause.message
  | noImplementation function types candidates => noImplementationText function types candidates
  | ambiguous function types candidates =>
    "MethodError: " ++ function ++ types.text ++ " is ambiguous. Candidates:" ++
      candidateLines function candidates
  | returnType function expected actual =>
    "ReturnTypeError: " ++ function ++ " must return " ++ expected.name ++ ", got " ++ actual.name
  | cast source target => "CastError: cannot cast " ++ source.name ++ " to " ++ target.name
  | type fault => "TypeError: " ++ fault.message
  | argument fault => "ArgumentError: " ++ fault.message
  | bounds index length =>
    "BoundsError: attempt to access index " ++ toString index ++ " of collection with length " ++
      toString length
  | divisionByZero => "DivideError: integer division error"
  | unknownFunction name => "UndefVarError: no generic function named " ++ name
  | io message => "IOError: " ++ message
  | serialization => none
  | invalidScript => none

/-- A function that exists by number only is named by it. -/
def unknownNumber (id : Nat) : Error :=
  unknownFunction ("#" ++ toString id)

end Error

end PredicateDispatch
