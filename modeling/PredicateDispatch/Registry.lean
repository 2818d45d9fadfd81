import PredicateDispatch.Catalog
import PredicateDispatch.Error

/-!
# The registry

A registry is a catalog with a dispatch cache and a journal of its dispatch decisions.  Registering an
entry or a default clears the cached selections of that function, a new link clears all.  Deriving a
predicate keeps its parent's membership test complete, and a function whose entries are all one-argument
truth tests is a predicate for as long as that holds.

An operation that fails keeps what it had done until then.
-/

namespace PredicateDispatch

structure Configuration where
  distance : Metric := .directed
  caching : Bool := true
deriving DecidableEq, Repr

/-- The defaults, changed by two settings whose values do not matter. -/
def Configuration.ofSettings (disableCache symmetricDistance : Option String) : Configuration where
  distance := if symmetricDistance.isSome then .symmetric else .directed
  caching := disableCache.isNone

/-- A remembered selection: the entry chosen for actual types, or that there is none. -/
structure CachedSelection where
  function : Nat
  types : List Nat
  selected : Option Nat
deriving DecidableEq, Repr

/-- One dispatch decision. -/
inductive DispatchEvent where
  | cacheHit (function : String) (types : Signature) (selected : Option Nat)
  | tie (function : String) (types : Signature) (count distance : Nat)
  /-- The signature of the chosen entry, if any entry accepts the types. -/
  | chosen (function : String) (types : Signature) (entry : Option Signature)
deriving DecidableEq, Repr

namespace DispatchEvent

def indexText : Option Nat → String
  | none => "None"
  | some index => "Some(" ++ toString index ++ ")"

def text : DispatchEvent → String
  | cacheHit function types selected =>
    "[DISPATCH] " ++ function ++ types.text ++ ": cache hit -> " ++ indexText selected
  | tie function types count distance =>
    "[DISPATCH] " ++ function ++ types.text ++ ": " ++ toString count ++
      " entries tie at distance " ++ toString distance
  | chosen function types entry =>
    "[DISPATCH] " ++ function ++ types.text ++ " -> " ++
      (entry.map Signature.text).getD "default"

end DispatchEvent

structure Registry (Code : Type) extends Catalog Code where
  caching : Bool
  cache : List CachedSelection := []
  /-- The latest decision first. -/
  journal : List DispatchEvent := []

namespace Registry

variable {Code : Type}

def fresh (configuration : Configuration) : Registry Code :=
  { Catalog.kernel configuration.distance with caching := configuration.caching }

def configuration (registry : Registry Code) : Configuration :=
  ⟨registry.metric, registry.caching⟩

/-! ## The dispatch cache -/

def record (registry : Registry Code) (event : DispatchEvent) : Registry Code :=
  { registry with journal := event :: registry.journal }

def cached? (registry : Registry Code) (id : Nat) (types : Signature) : Option (Option Nat) :=
  (registry.cache.find? fun entry => entry.function == id && entry.types == types.ids).map
    CachedSelection.selected

def remember (registry : Registry Code) (id : Nat) (types : Signature) (selected : Option Nat) :
    Registry Code :=
  { registry with cache := ⟨id, types.ids, selected⟩ :: registry.cache }

/-- Drops the cached selections of one function. -/
def forget (registry : Registry Code) (id : Nat) : Registry Code :=
  { registry with cache := registry.cache.filter fun entry => entry.function != id }

/-! ## Selection -/

/-- Selects the entry of a function for actual types by its position, as `resolve` decides.  A tie
fails, or counts as no entry if it is to be tolerated, and is never cached. -/
def selectBy (registry : Registry Code)
    (resolve : Hierarchy → Metric → List Signature → Signature → Resolution) (id : Nat)
    (types : Signature) (metric : Metric) (useCache tolerateTie : Bool) :
    Except Error (Option Nat) × Registry Code :=
  match registry.function? id with
  | none => (.error (.unknownNumber id), registry)
  | some function =>
    match if useCache then registry.cached? id types else none with
    | some selected => (.ok selected, registry.record (.cacheHit function.name types selected))
    | none =>
      let settle (selected : Option Nat) (entry : Option Signature) :
          Except Error (Option Nat) × Registry Code :=
        let registry := registry.record (.chosen function.name types entry)
        (.ok selected, if useCache then registry.remember id types selected else registry)
      match resolve registry.hierarchy metric function.signatures types with
      | .noMatch => settle none none
      | .unique best => settle (some best.index) function.signatures[best.index]?
      | .ambiguous tied =>
        let registry := registry.record
          (.tie function.name types tied.length ((tied.head?.map Candidate.distance).getD 0))
        if tolerateTie then (.ok none, registry)
        else
          (.error (.ambiguous function.name types
            (tied.filterMap fun candidate => function.signatures[candidate.index]?)), registry)

/-- Selects by the exact totals. -/
def select (registry : Registry Code) (id : Nat) (types : Signature) (metric : Metric)
    (useCache tolerateTie : Bool) : Except Error (Option Nat) × Registry Code :=
  registry.selectBy Hierarchy.resolve id types metric useCache tolerateTie

/-- Selects by the totals in 32 bits. -/
def wrappedSelect (registry : Registry Code) (id : Nat) (types : Signature) (metric : Metric)
    (useCache tolerateTie : Bool) : Except Error (Option Nat) × Registry Code :=
  registry.selectBy Hierarchy.wrappedResolve id types metric useCache tolerateTie

/-- Selects under the configured metric and cache. -/
def selectConfigured (registry : Registry Code) (id : Nat) (types : Signature)
    (tolerateTie : Bool) : Except Error (Option Nat) × Registry Code :=
  registry.select id types registry.metric registry.caching tolerateTie

/-- The entry at a selected position. -/
def entryAt? (registry : Registry Code) (id : Nat) (selected : Option Nat) :
    Option (MethodEntry Code) :=
  match registry.function? id, selected with
  | some function, some index => function.entries[index]?
  | _, _ => none

/-- Selects an entry without running it. -/
def resolve (registry : Registry Code) (id : Nat) (types : Signature) (tolerateTie : Bool) :
    Except Error (Option (MethodEntry Code)) × Registry Code :=
  let (outcome, after) := registry.selectConfigured id types tolerateTie
  (outcome.map (registry.entryAt? id), after)

/-- The declared return type of what a call with these types would run; `none` if it cannot succeed. -/
def probe (registry : Registry Code) (id : Nat) (types : Signature) :
    Except Error (Option Predicate) × Registry Code :=
  match registry.function? id with
  | none => (.error (.unknownNumber id), registry)
  | some function =>
    let (outcome, after) := registry.selectConfigured id types false
    match outcome with
    | .ok (some index) => (.ok (function.entries[index]?.map MethodEntry.returns), after)
    | .ok none => (.ok (function.fallback.map DefaultEntry.returns), after)
    | .error _ => (.ok none, after)

/-! ## Changes -/

def createPredicate (registry : Registry Code) (name : String) : Registry Code :=
  { registry with hierarchy := registry.hierarchy.create name }

def addEntry (registry : Registry Code) (id : Nat) (entry : MethodEntry Code) : Registry Code :=
  { registry with toCatalog := registry.modifyFunction id (·.addEntry entry) }.forget id

/-- The entry that answers for a child is declared on the parent or below it. -/
def isCovered (registry : Registry Code) (parent : Predicate)
    (covering : Option (MethodEntry Code)) : Bool :=
  match covering.bind fun entry => entry.arguments.head? with
  | some declared => registry.isA parent declared
  | none => false

/-- Links `child` under `parent`.  If the parent's membership test would leave the child to an entry
from outside the parent, an entry is added that says yes. -/
def derive (registry : Registry Code) (parent child : Predicate) :
    Except Error Unit × Registry Code :=
  match registry.hierarchy.link parent child with
  | .error cause => (.error (.link cause), registry)
  | .ok hierarchy =>
    let registry := { registry with hierarchy := hierarchy, cache := [] }
    match registry.membershipTest? parent with
    | none => (.ok (), registry)
    | some test =>
      let (outcome, registry) := registry.resolve test [child] true
      match outcome with
      | .error error => (.error error, registry)
      | .ok covering =>
        if registry.isCovered parent covering then (.ok (), registry)
        else (.ok (), registry.addEntry test (Catalog.fixedAnswer child true))

/-- Creates a predicate under `parent` together with its membership test. -/
def definePredicate (registry : Registry Code) (name : String) (parent : Predicate) :
    Except Error Predicate × Registry Code :=
  let type := registry.hierarchy.fresh name
  let (outcome, registry) := (registry.createPredicate name).derive parent type
  match outcome with
  | .error error => (.error error, registry)
  | .ok () => (.ok type, { registry with toCatalog := registry.attachTest type })

def createFunction (registry : Registry Code) (name : String) : Registry Code :=
  { registry with toCatalog := registry.addFunction { name := name } }

/-- Gives a truth test a predicate of its own name under `isAny`. -/
def promote (registry : Registry Code) (id : Nat) (name : String) :
    Except Error Unit × Registry Code :=
  let type := registry.hierarchy.fresh name
  let (outcome, registry) := (registry.createPredicate name).derive Predicate.any type
  match outcome with
  | .error error => (.error error, registry)
  | .ok () =>
    let catalog := registry.modifyFunction id ({ · with role := .promoted type })
    (.ok (), { registry with
      toCatalog := { catalog with tests := catalog.tests.insert type.id id } })

/-- Takes the predicate of a promoted function away; it stays in the forest without a test. -/
def demote (registry : Registry Code) (id : Nat) (type : Predicate) : Registry Code :=
  let catalog := registry.modifyFunction id ({ · with role := .ordinary })
  { registry with toCatalog := { catalog with tests := catalog.tests.erase type.id } }

/-- Promotes or demotes a function as its entries now demand. -/
def reviewRole (registry : Registry Code) (id : Nat) : Except Error Unit × Registry Code :=
  match registry.function? id with
  | none => (.error (.unknownNumber id), registry)
  | some function =>
    match function.isTruthTest, function.role with
    | true, .ordinary => registry.promote id function.name
    | false, .promoted type => (.ok (), registry.demote id type)
    | _, _ => (.ok (), registry)

/-- Registers an entry in the place of one with the same argument types. -/
def register (registry : Registry Code) (id : Nat) (entry : MethodEntry Code) :
    Except Error Unit × Registry Code :=
  match registry.function? id with
  | none => (.error (.unknownNumber id), registry)
  | some _ => (registry.addEntry id entry).reviewRole id

def setDefault (registry : Registry Code) (id : Nat) (fallback : DefaultEntry Code) :
    Except Error Unit × Registry Code :=
  match registry.function? id with
  | none => (.error (.unknownNumber id), registry)
  | some _ =>
    let catalog := registry.modifyFunction id ({ · with fallback := some fallback })
    (.ok (), { registry with toCatalog := catalog }.forget id)

end Registry

end PredicateDispatch
