import PredicateDispatch.Registry

/-!
# Operations on a registry

Everything that can be asked of a registry, as data.  A registry is reached from a fresh one by
performing operations and in no other way, and no operation answers with the cache or with the setting
that turns it on.
-/

namespace PredicateDispatch

inductive Operation (Code : Type) where
  | inspect
  | createPredicate (name : String)
  | definePredicate (name : String) (parent : Predicate)
  | derive (parent child : Predicate)
  | createFunction (name : String)
  | register (function : Nat) (entry : MethodEntry Code)
  | setDefault (function : Nat) (fallback : DefaultEntry Code)
  | resolve (function : Nat) (types : Signature) (tolerateTie : Bool)
  | select (function : Nat) (types : Signature) (metric : Metric) (useCache tolerateTie : Bool)
  | probe (function : Nat) (types : Signature)

namespace Operation

variable {Code : Type}

/-- What an operation answers with when it succeeds. -/
@[reducible]
def Answer : Operation Code → Type
  | inspect => Catalog Code
  | createPredicate _ => Predicate
  | definePredicate _ _ => Predicate
  | derive _ _ => Unit
  | createFunction _ => Nat
  | register _ _ => Unit
  | setDefault _ _ => Unit
  | resolve _ _ _ => Option (MethodEntry Code)
  | select _ _ _ _ _ => Option Nat
  | probe _ _ => Option Predicate

def perform : (operation : Operation Code) → Registry Code →
    Except Error operation.Answer × Registry Code
  | inspect, registry => (.ok registry.toCatalog, registry)
  | createPredicate name, registry =>
    (.ok (registry.hierarchy.fresh name), registry.createPredicate name)
  | definePredicate name parent, registry => registry.definePredicate name parent
  | derive parent child, registry => registry.derive parent child
  | createFunction name, registry => (.ok registry.nextFunction, registry.createFunction name)
  | register function entry, registry => registry.register function entry
  | setDefault function fallback, registry => registry.setDefault function fallback
  | resolve function types tolerateTie, registry => registry.resolve function types tolerateTie
  | select function types metric useCache tolerateTie, registry =>
    registry.select function types metric useCache tolerateTie
  | probe function types, registry => registry.probe function types

end Operation

end PredicateDispatch
