import PredicateDispatch.Library.Install
import PredicateDispatch.Report.Document
import PredicateDispatch.Script.Answer
import PredicateDispatch.Script.Reference

/-!
# Steps without expressions

Queries and changes whose operands are names, numbers and references.
-/

namespace PredicateDispatch.Script

inductive Query where
  | createPredicate (name : String)
  | definePredicate (parent : PredicateRef) (name : String)
  | derive (parent child : PredicateRef)
  | isA (ancestor descendant : PredicateRef)
  | parentOf (type : PredicateRef)
  | ancestorsOf (type : PredicateRef)
  | descendantsOf (type : PredicateRef)
  | predicates
  | typeDistance (actual declared : PredicateRef)
  /-- Under a metric of its own, or else the configured one. -/
  | distance (actual declared : PredicateRef) (metric : Option Metric)
  | membershipTest (type : PredicateRef)
  | createFunction (name : String)
  | function (name : String)
  | functions
  | describe (function : FunctionRef)
  | resolve (function : FunctionRef) (types : List PredicateRef) (tolerateTie : Bool)
  | select (function : FunctionRef) (types : List PredicateRef) (metric : Option Metric)
      (useCache tolerateTie : Bool)
  | probe (function : FunctionRef) (types : List PredicateRef)
  | noImplementation (function : FunctionRef) (types : List PredicateRef)
  | rank (signatures : List (List PredicateRef)) (actual : List PredicateRef)
      (metric : Option Metric)
  | onIntegers (operation : Numbers.Arithmetic) (a b : Int)
  | onReals (operation : Numbers.Arithmetic) (a b : Float)
  | roundHalfUp (x : Float)
  | install
  | handles
  | output
  | report
  | reportText
  | reportFind (name : String)
  | reportParse (text : String)
  | configuration (disableCache symmetricDistance : Option String)

namespace Query

variable {Custom : Type}

/-- The report on the registry as it is, whose caching setting is given. -/
def currentReport (caching : Bool) : Program (Body Custom) Report :=
  return (← Program.inspect).report caching

/-- Predicates in the order of their numbers. -/
def sorted (types : List Predicate) : List Predicate :=
  types.foldr insert []
where
  insert (type : Predicate) : List Predicate → List Predicate
    | [] => [type]
    | head :: tail => if type.id ≤ head.id then type :: head :: tail else head :: insert type tail

def run (caching : Bool) : Query → Program (Body Custom) Answer
  | createPredicate name => return .predicate (← Program.createPredicate name)
  | definePredicate parent name => do
    return .predicate (← Program.definePredicate name (← parent.find))
  | derive parent child => do
    let parent ← parent.find
    Program.derive parent (← child.find)
    return .nothing
  | isA ancestor descendant => do
    let ancestor ← ancestor.find
    let descendant ← descendant.find
    return .truth ((← Program.inspect).isA ancestor descendant)
  | parentOf type => do
    let type ← type.find
    return .optionalPredicate ((← Program.inspect).hierarchy.parent? type)
  | ancestorsOf type => do
    let type ← type.find
    return .predicates (sorted ((← Program.inspect).hierarchy.ancestorsOf type))
  | descendantsOf type => do
    let type ← type.find
    return .predicates (sorted ((← Program.inspect).hierarchy.descendantsOf type))
  | predicates => return .predicates (← Program.inspect).hierarchy.predicates.toList
  | typeDistance actual declared => do
    let actual ← actual.find
    let declared ← declared.find
    return .number ((← Program.inspect).typeDistance actual declared)
  | distance actual declared metric => do
    let actual ← actual.find
    let declared ← declared.find
    let catalog ← Program.inspect
    return .number (catalog.hierarchy.distance (metric.getD catalog.metric) actual declared)
  | membershipTest type => do
    let type ← type.find
    return .optionalNumber ((← Program.inspect).membershipTest? type)
  | createFunction name => return .number (← Program.createFunction name)
  | function name => return .number (← Program.functionNamed name)
  | functions => do
    let catalog ← Program.inspect
    return .functions (catalog.functions.toList.mapIdx fun id function => (function.name, id))
  | describe reference => do
    let id ← reference.find
    return .description (.of id (← Program.function id))
  | resolve reference types tolerateTie => do
    let id ← reference.find
    let selected ← Program.resolve id (← findAll types) tolerateTie
    return .entry (selected.map EntryDescription.of)
  | select reference types metric useCache tolerateTie => do
    let id ← reference.find
    let types ← findAll types
    let metric := metric.getD (← Program.inspect).metric
    return .optionalNumber
      (← Program.request (.registry (.select id types metric useCache tolerateTie)))
  | probe reference types => do
    let id ← reference.find
    return .optionalPredicate (← Program.probe id (← findAll types))
  | noImplementation reference types => do
    let id ← reference.find
    let types ← findAll types
    let function ← Program.function id
    return .failure function.name (((function.noImplementation types).message).getD "")
  | rank signatures actual metric => do
    let signatures ← findSignatures signatures
    let actual ← findAll actual
    let catalog ← Program.inspect
    return .ranking (.of catalog.hierarchy (metric.getD catalog.metric) signatures actual)
  | onIntegers operation a b => return .integer (← Numbers.onIntegers operation a b)
  | onReals operation a b => return .real (← Numbers.onReals operation a b)
  | roundHalfUp x => return .integer (← Numbers.roundHalfUp x)
  | install => do
    let library ← Library.install
    Program.request (.publish library)
    return .nothing
  | handles => do
    match ← Program.request .library with
    | some library => return .handles library
    | none => throw .invalidScript
  | output => return .text (← Program.request .takeOutput)
  | report => return .report (← currentReport caching)
  | reportText => return .text (← currentReport caching).write
  | reportFind name => do
    let report ← currentReport caching
    return .found (report.predicate? name) (report.function? name)
  | reportParse text => do
    let parsed ← Report.read text
    return .parsed parsed (parsed == (← currentReport caching))
  | configuration disableCache symmetricDistance =>
    return .configuration (.ofSettings disableCache symmetricDistance)

end Query

end PredicateDispatch.Script
