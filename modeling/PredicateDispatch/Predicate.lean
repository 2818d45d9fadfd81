/-!
# Predicates and signatures

A type is a predicate: a numbered handle that carries a display name.  The number alone is its
identity, so two handles with one number denote the same type even when their names differ.  Every
registry starts with the same five predicates.
-/

namespace PredicateDispatch

/-- A handle on a type.  The name is only shown, never compared. -/
structure Predicate where
  id : Nat
  name : String
deriving DecidableEq, Repr

namespace Predicate

def any : Predicate := ⟨0, "isAny"⟩
def predicate : Predicate := ⟨1, "isPred"⟩
def function : Predicate := ⟨2, "isFn"⟩
def boolean : Predicate := ⟨3, "isBool"⟩
def null : Predicate := ⟨4, "isNull"⟩

/-- The predicates every registry starts with, in the order of their numbers. -/
def kernel : List Predicate := [any, predicate, function, boolean, null]

end Predicate

/-- The types of an argument list, declared or actual. -/
abbrev Signature := List Predicate

namespace Signature

def ids (types : Signature) : List Nat :=
  types.map Predicate.id

/-- Shown as `(::A, ::B)`. -/
def text (types : Signature) : String :=
  "(" ++ ", ".intercalate (types.map fun type => "::" ++ type.name) ++ ")"

end Signature

end PredicateDispatch
