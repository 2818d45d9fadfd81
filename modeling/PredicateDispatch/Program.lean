import PredicateDispatch.World

/-!
# Programs as trees of requests

A program asks the world one thing at a time and goes on with the answer, until it is done with a value
or a failure.  A failing request is answered with its failure, so that a program may go on from it.
Code in a registry means a program, and running code is itself a request.
-/

namespace PredicateDispatch

/-- Something to run: an implementation whose answer must have a declared type, or code as it is. -/
inductive Task (Code : Type) where
  | typed (function : String) (returns : Predicate) (implementation : Implementation Code)
  | plain (body : Code)

inductive Request (Code : Type) where
  | registry (operation : Operation Code)
  | run (task : Task Code) (arguments : List Value)
  | runClosure (identity : Nat) (arguments : List Value)
  | makeClosure (body : Code)
  | readVariable (name : String)
  | writeVariable (name : String) (value : Value)
  | write (text : String)
  /-- What was written since this was asked last. -/
  | takeOutput
  | library
  | publish (library : Library)

namespace Request

variable {Code : Type}

@[reducible]
def Answer : Request Code → Type
  | registry operation => operation.Answer
  | run _ _ => Value
  | runClosure _ _ => Value
  | makeClosure _ => Nat
  | readVariable _ => Option Value
  | writeVariable _ _ => Unit
  | write _ => Unit
  | takeOutput => String
  | library => Option Library
  | publish _ => Unit

end Request

inductive Program (Code : Type) (α : Type) where
  | done (outcome : Except Error α)
  | ask (request : Request Code) (next : Except Error request.Answer → Program Code α)

namespace Program

variable {Code α β : Type}

def bind : Program Code α → (α → Program Code β) → Program Code β
  | done (.ok value), rest => rest value
  | done (.error error), _ => done (.error error)
  | ask request next, rest => ask request fun answer => (next answer).bind rest

/-- Goes on with `recover` if the program fails. -/
def rescue : Program Code α → (Error → Program Code α) → Program Code α
  | done (.ok value), _ => done (.ok value)
  | done (.error error), recover => recover error
  | ask request next, recover => ask request fun answer => (next answer).rescue recover

instance : Monad (Program Code) where
  pure value := done (.ok value)
  bind := bind

instance : MonadExceptOf Error (Program Code) where
  throw error := done (.error error)
  tryCatch := rescue

instance : MonadLift (Except Error) (Program Code) where
  monadLift := done

def request (request : Request Code) : Program Code request.Answer :=
  ask request done

/-- The results for the items one after the other, behind earlier results, the latest of which comes
first.  The program for an item is followed by the rest at once, so that a long list is run in steps of
constant size. -/
def collect (program : α → Program Code β) : (earlier : List β) → List α → Program Code (List β)
  | earlier, [] => done (.ok earlier.reverse)
  | earlier, item :: rest => (program item).bind fun result => collect program (result :: earlier) rest

/-- The catalog as it is at this moment. -/
def inspect : Program Code (Catalog Code) :=
  request (.registry .inspect)

def createPredicate (name : String) : Program Code Predicate :=
  request (.registry (.createPredicate name))

def definePredicate (name : String) (parent : Predicate) : Program Code Predicate :=
  request (.registry (.definePredicate name parent))

def derive (parent child : Predicate) : Program Code Unit :=
  request (.registry (.derive parent child))

def createFunction (name : String) : Program Code Nat :=
  request (.registry (.createFunction name))

def register (function : Nat) (types : Signature) (returns : Predicate) (body : Code) :
    Program Code Unit :=
  request (.registry (.register function ⟨types, returns, .code body⟩))

def setDefault (function : Nat) (returns : Predicate) (body : Code) : Program Code Unit :=
  request (.registry (.setDefault function ⟨returns, .code body⟩))

def resolve (function : Nat) (types : Signature) (tolerateTie : Bool) :
    Program Code (Option (MethodEntry Code)) :=
  request (.registry (.resolve function types tolerateTie))

def probe (function : Nat) (types : Signature) : Program Code (Option Predicate) :=
  request (.registry (.probe function types))

def run (task : Task Code) (arguments : List Value) : Program Code Value :=
  request (.run task arguments)

/-- The generic function of a number. -/
def function (id : Nat) : Program Code (GenericFunction Code) := do
  match (← inspect).function? id with
  | some function => return function
  | none => throw (.unknownNumber id)

/-- The number of the newest function of a name. -/
def functionNamed (name : String) : Program Code Nat := do
  match (← inspect).named? name with
  | some id => return id
  | none => throw (.unknownFunction name)

end Program

end PredicateDispatch
