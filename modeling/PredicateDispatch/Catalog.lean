import PredicateDispatch.GenericFunction

/-!
# What dispatch depends on

A catalog holds the forest, the generic functions with their names, and which function tests membership
in which predicate.  It is all that a program may see of a registry, and the answer of every call is
decided by it alone.
-/

namespace PredicateDispatch

structure Catalog (Code : Type) where
  metric : Metric
  hierarchy : Hierarchy
  /-- In the order of creation, so that a function's number is its position. -/
  functions : Array (GenericFunction Code) := #[]
  /-- The newest function of each name. -/
  names : Std.TreeMap String Nat := ∅
  /-- The membership test of each predicate, both by number. -/
  tests : Std.TreeMap Nat Nat := ∅

namespace Catalog

variable {Code : Type}

def function? (catalog : Catalog Code) (id : Nat) : Option (GenericFunction Code) :=
  catalog.functions[id]?

def named? (catalog : Catalog Code) (name : String) : Option Nat :=
  catalog.names[name]?

def membershipTest? (catalog : Catalog Code) (type : Predicate) : Option Nat :=
  catalog.tests[type.id]?

def isA (catalog : Catalog Code) (ancestor descendant : Predicate) : Bool :=
  catalog.hierarchy.isA ancestor descendant

def typeDistance (catalog : Catalog Code) (actual declared : Predicate) : Nat :=
  catalog.hierarchy.distance catalog.metric actual declared

/-- The number that the next function gets. -/
def nextFunction (catalog : Catalog Code) : Nat :=
  catalog.functions.size

/-- Adds a function and binds its name to it. -/
def addFunction (catalog : Catalog Code) (function : GenericFunction Code) : Catalog Code :=
  { catalog with
    functions := catalog.functions.push function
    names := catalog.names.insert function.name catalog.nextFunction }

def modifyFunction (catalog : Catalog Code) (id : Nat)
    (change : GenericFunction Code → GenericFunction Code) : Catalog Code :=
  { catalog with functions := catalog.functions.modify id change }

/-- An entry of a membership test that gives one answer for all values of a type. -/
def fixedAnswer (type : Predicate) (truth : Bool) : MethodEntry Code :=
  ⟨[type], Predicate.boolean, .answer truth⟩

/-- A new membership test says no to every value and yes to those of its predicate. -/
def membershipTest (type : Predicate) : GenericFunction Code where
  name := type.name
  entries :=
    if type.id == Predicate.any.id then [fixedAnswer type true]
    else [fixedAnswer Predicate.any false, fixedAnswer type true]
  role := .defined type

/-- Gives a predicate its membership test. -/
def attachTest (catalog : Catalog Code) (type : Predicate) : Catalog Code :=
  { catalog.addFunction (membershipTest type) with
    tests := catalog.tests.insert type.id catalog.nextFunction }

/-- The five kernel predicates with their membership tests. -/
def kernel (metric : Metric) : Catalog Code :=
  Predicate.kernel.foldl attachTest { metric := metric, hierarchy := Hierarchy.kernel }

end Catalog

end PredicateDispatch
