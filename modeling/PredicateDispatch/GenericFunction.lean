import PredicateDispatch.Resolution

/-!
# Generic functions

A generic function is an ordered table of entries, at most one for each list of argument types, and
possibly a default for calls that no entry accepts.  It may be the membership test of a predicate,
either because it was made together with the predicate or because it was promoted to one.
-/

namespace PredicateDispatch

/-- What an entry runs: a fixed truth value, as membership tests answer it, or code. -/
inductive Implementation (Code : Type) where
  | answer (truth : Bool)
  | code (body : Code)

/-- How to answer a call, and the type that every answer must have. -/
structure DefaultEntry (Code : Type) where
  returns : Predicate
  implementation : Implementation Code

structure MethodEntry (Code : Type) where
  arguments : Signature
  returns : Predicate
  implementation : Implementation Code

/-- Whose membership test a function is. -/
inductive Role where
  | ordinary
  /-- Made together with the predicate. -/
  | defined (type : Predicate)
  /-- Promoted because all its entries are one-argument truth tests. -/
  | promoted (type : Predicate)
deriving DecidableEq, Repr

def Role.predicate? : Role → Option Predicate
  | ordinary => none
  | defined type => some type
  | promoted type => some type

structure GenericFunction (Code : Type) where
  name : String
  entries : List (MethodEntry Code) := []
  fallback : Option (DefaultEntry Code) := none
  role : Role := .ordinary

namespace MethodEntry

variable {Code : Type}

/-- Shown as `MethodEntry(::A, ::B) -> C`. -/
def text (entry : MethodEntry Code) : String :=
  "MethodEntry" ++ entry.arguments.text ++ " -> " ++ entry.returns.name

end MethodEntry

namespace DefaultEntry

variable {Code : Type}

def text (entry : DefaultEntry Code) : String :=
  "DefaultEntry -> " ++ entry.returns.name

end DefaultEntry

namespace GenericFunction

variable {Code : Type}

def predicate? (function : GenericFunction Code) : Option Predicate :=
  function.role.predicate?

def signatures (function : GenericFunction Code) : List Signature :=
  function.entries.map MethodEntry.arguments

/-- Puts an entry in the place of the one with the same argument types, or at the end. -/
def putEntry (entry : MethodEntry Code) : List (MethodEntry Code) → List (MethodEntry Code)
  | [] => [entry]
  | existing :: rest =>
    if existing.arguments.ids == entry.arguments.ids then entry :: rest
    else existing :: putEntry entry rest

def addEntry (function : GenericFunction Code) (entry : MethodEntry Code) :
    GenericFunction Code :=
  { function with entries := putEntry entry function.entries }

/-- Every entry takes one argument and returns a truth value. -/
def isTruthTest (function : GenericFunction Code) : Bool :=
  function.entries.all fun entry =>
    entry.arguments.length == 1 && entry.returns.id == Predicate.boolean.id

end GenericFunction

end PredicateDispatch
