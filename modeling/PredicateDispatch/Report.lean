import PredicateDispatch.Registry

/-!
# Reports

A report lists the predicates and functions of a registry by name, for readers that do not hold the
registry itself.
-/

namespace PredicateDispatch

structure PredicateReport where
  id : UInt32
  name : String
  parent : Option String
  /-- Proper ancestors, nearest first. -/
  ancestors : List String
  /-- The name of the function that tests membership. -/
  membershipTest : Option String
deriving DecidableEq, Repr

structure SignatureReport where
  arguments : List String
  returns : String
deriving DecidableEq, Repr

structure FunctionReport where
  id : UInt32
  name : String
  entries : List SignatureReport
  hasDefault : Bool
  /-- The predicate that the function is the membership test of. -/
  predicate : Option String
deriving DecidableEq, Repr

structure Report where
  configuration : Configuration
  predicates : List PredicateReport
  functions : List FunctionReport
deriving DecidableEq, Repr

namespace Report

/-- The first predicate reported under a name. -/
def predicate? (report : Report) (name : String) : Option PredicateReport :=
  report.predicates.find? fun predicate => predicate.name == name

/-- The newest function reported under a name. -/
def function? (report : Report) (name : String) : Option FunctionReport :=
  report.functions.reverse.find? fun function => function.name == name

end Report

namespace Catalog

variable {Code : Type}

def reportPredicate (catalog : Catalog Code) (type : Predicate) : PredicateReport where
  id := .ofNat type.id
  name := type.name
  parent := (catalog.hierarchy.parent? type).map Predicate.name
  ancestors := (catalog.hierarchy.lineage type).map Predicate.name
  membershipTest :=
    ((catalog.membershipTest? type).bind catalog.function?).map GenericFunction.name

def reportFunction (id : Nat) (function : GenericFunction Code) : FunctionReport where
  id := .ofNat id
  name := function.name
  entries := function.entries.map fun entry =>
    ⟨entry.arguments.map Predicate.name, entry.returns.name⟩
  hasDefault := function.fallback.isSome
  predicate := function.predicate?.map Predicate.name

/-- The report on a catalog; the caching setting is not part of the catalog. -/
def report (catalog : Catalog Code) (caching : Bool) : Report where
  configuration := ⟨catalog.metric, caching⟩
  predicates := catalog.hierarchy.predicates.toList.map catalog.reportPredicate
  functions := catalog.functions.toList.mapIdx reportFunction

end Catalog

namespace Registry

variable {Code : Type}

def report (registry : Registry Code) : Report :=
  registry.toCatalog.report registry.caching

end Registry

end PredicateDispatch
