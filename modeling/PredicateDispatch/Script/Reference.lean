import PredicateDispatch.Program

/-!
# References to predicates and functions

A script names predicates and functions; a name means the newest bearer at the moment it is used.
-/

namespace PredicateDispatch.Script

inductive PredicateRef where
  /-- The newest predicate of a name. -/
  | named (name : String)
  | numbered (id : Nat)
  /-- A handle from elsewhere, whose number may not exist here. -/
  | foreign (type : Predicate)
  | invalid

inductive FunctionRef where
  | named (name : String)
  /-- A number, whether or not a function has it. -/
  | numbered (id : Nat)
  /-- The membership test of a predicate. -/
  | testOf (type : PredicateRef)
  | invalid

variable {Code : Type}

def PredicateRef.find? (catalog : Catalog Code) : PredicateRef → Option Predicate
  | named name => catalog.hierarchy.predicates.toList.reverse.find? fun type => type.name == name
  | numbered id => catalog.hierarchy.predicates[id]?
  | foreign type => some type
  | invalid => none

def PredicateRef.find (reference : PredicateRef) : Program Code Predicate := do
  match reference.find? (← Program.inspect) with
  | some type => return type
  | none => throw .invalidScript

def findAll : List PredicateRef → Program Code Signature
  | [] => return []
  | reference :: rest => do
    let type ← reference.find
    return type :: (← findAll rest)

def findSignatures : List (List PredicateRef) → Program Code (List Signature)
  | [] => return []
  | references :: rest => do
    let signature ← findAll references
    return signature :: (← findSignatures rest)

def FunctionRef.find : FunctionRef → Program Code Nat
  | named name => Program.functionNamed name
  | numbered id => return id
  | testOf reference => do
    let type ← reference.find
    match (← Program.inspect).membershipTest? type with
    | some test => return test
    | none => throw .invalidScript
  | invalid => throw .invalidScript

end PredicateDispatch.Script
