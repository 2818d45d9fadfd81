import PredicateDispatch.Library.Handles
import PredicateDispatch.Report

/-!
# Answers of script steps

Each step of a script answers with data of the library; nothing here is text made for a reader except
where a step asks for text.
-/

namespace PredicateDispatch.Script

structure EntryDescription where
  arguments : Signature
  returns : Predicate
  text : String

structure FunctionDescription where
  id : Nat
  name : String
  entries : List EntryDescription
  fallback : Option String
  predicate : Option Predicate

/-- How signatures fare against actual types. -/
structure Ranking where
  accepts : List Bool
  totals : List Nat
  ranked : List Candidate
  resolution : Resolution

/-- What a value shows of itself and what it can be read as. -/
structure Inspection where
  display : String
  inspect : String
  boolean : Option Bool
  int : Option Int
  real : Option Float
  isText : Bool
  isList : Bool
  isMap : Bool
  isPredicate : Bool
  isFunction : Bool

inductive Answer where
  | nothing
  | truth (truth : Bool)
  | number (n : Nat)
  | optionalNumber (n : Option Nat)
  | predicate (type : Predicate)
  | optionalPredicate (type : Option Predicate)
  | predicates (types : List Predicate)
  | functions (names : List (String × Nat))
  | description (description : FunctionDescription)
  | entry (entry : Option EntryDescription)
  | failure (function text : String)
  | ranking (ranking : Ranking)
  | value (value : Value)
  | text (text : String)
  | inspection (inspection : Inspection)
  | equality (values payloads swapped : Bool)
  | integer (n : Int)
  | real (x : Float)
  | order (order : Option Ordering)
  | handles (library : Library)
  | report (report : Report)
  | found (predicate : Option PredicateReport) (function : Option FunctionReport)
  | parsed (report : Report) (equalsOwn : Bool)
  | configuration (configuration : Configuration)

variable {Code : Type}

def EntryDescription.of (entry : MethodEntry Code) : EntryDescription :=
  ⟨entry.arguments, entry.returns, entry.text⟩

def FunctionDescription.of (id : Nat) (function : GenericFunction Code) : FunctionDescription where
  id := id
  name := function.name
  entries := function.entries.map EntryDescription.of
  fallback := function.fallback.map DefaultEntry.text
  predicate := function.predicate?

def Inspection.of (value : Value) : Inspection where
  display := value.display
  inspect := value.inspect
  boolean := value.payload.boolean?
  int := value.payload.int?
  real := value.payload.real?
  isText := value.payload.text?.isSome
  isList := value.payload.list?.isSome
  isMap := value.payload.map?.isSome
  isPredicate := value.payload.predicate?.isSome
  isFunction := value.payload.function?.isSome

def Ranking.of (hierarchy : Hierarchy) (metric : Metric) (signatures : List Signature)
    (actual : Signature) : Ranking where
  accepts := signatures.map fun declared => hierarchy.accepts declared actual
  totals := signatures.map fun declared => hierarchy.wrappedTotal metric declared actual
  ranked := hierarchy.wrappedRank metric signatures actual
  resolution := hierarchy.wrappedResolve metric signatures actual

end PredicateDispatch.Script
