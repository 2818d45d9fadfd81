import PredicateDispatch.Value

/-!
# Handles on the base library

An installation of the base library answers with the predicates and the numbers of the functions that it
made, so that several installations can live in one registry.
-/

namespace PredicateDispatch

/-- `isReal` with `isInt` and `isChar` below it, `isString`, `isList` and `isMap`. -/
structure BaseTypes where
  real : Predicate
  int : Predicate
  character : Predicate
  string : Predicate
  list : Predicate
  map : Predicate
deriving DecidableEq, Repr

namespace BaseTypes

def intValue (types : BaseTypes) (n : Int) : Value :=
  .tagged (.int n) types.int

def realValue (types : BaseTypes) (x : Float) : Value :=
  .tagged (.real x) types.real

/-- A character is its code point tagged `isChar`. -/
def characterValue (types : BaseTypes) (c : Char) : Value :=
  .tagged (.int c.toNat) types.character

def textValue (types : BaseTypes) (s : String) : Value :=
  .tagged (.text s) types.string

def listValue (types : BaseTypes) (items : List Value) : Value :=
  .tagged (.list items) types.list

def mapValue (types : BaseTypes) (bindings : List Binding) : Value :=
  .tagged (.map bindings) types.map

end BaseTypes

structure NumberFunctions where
  add : Nat
  sub : Nat
  times : Nat
  divide : Nat
  modulo : Nat
  pow : Nat
  neg : Nat
  is : Nat
  isLessThan : Nat
  isLessThanEq : Nat
  isGreaterThan : Nat
  isGreaterThanEq : Nat
  int : Nat
deriving DecidableEq, Repr

structure CollectionFunctions where
  isEmpty : Nat
  size : Nat
  get : Nat
  set : Nat
deriving DecidableEq, Repr

structure ReflectionFunctions where
  typeOf : Nat
  derive : Nat
  isA : Nat
  retag : Nat
  cast : Nat
  apply : Nat
deriving DecidableEq, Repr

structure Library where
  types : BaseTypes
  numbers : NumberFunctions
  text : Nat
  collections : CollectionFunctions
  reflection : ReflectionFunctions
  println : Nat
deriving DecidableEq, Repr

end PredicateDispatch
