import PredicateDispatch.Proofs.Library.BaseTypes
import PredicateDispatch.Proofs.Registry.Frame

/-!
# The tables of the base library

A function has a table when its entries are the rows of the table and it is no
membership test.  A registry is furnished with tables for some functions, which
stay while nothing is registered on them; of some other functions it is only
known that all their entries take one argument, because such a function may
become a membership test and get entries for further predicates.
-/

namespace PredicateDispatch

variable {Code : Type}

/-- The types of the arguments and of the answer of an entry. -/
structure Row where
  arguments : List BaseType
  returns : BaseType
deriving DecidableEq, Repr

namespace Row

def isTruthTest (row : Row) : Bool :=
  row.arguments.length == 1 && row.returns == .boolean

/-- A function that gets these rows in order is never a truth test. -/
def Plain (rows : List Row) : Prop :=
  ∀ row ∈ rows.head?, row.isTruthTest = false

instance (rows : List Row) : Decidable (Plain rows) :=
  inferInstanceAs (Decidable (∀ row ∈ rows.head?, row.isTruthTest = false))

theorem Plain.all_eq_false {rows more : List Row} {row : Row}
    (hplain : Plain (rows ++ row :: more)) :
    (rows ++ [row]).all isTruthTest = false := by
  cases rows with
  | nil => simpa using hplain row rfl
  | cons first rest =>
      have hfirst : first.isTruthTest = false := hplain first rfl
      simp [hfirst]

/-- What an entry declares that stands for the row. -/
def declared (types : BaseTypes) (row : Row) : Signature × Predicate :=
  (types.handles row.arguments, types.handle row.returns)

end Row

/-- Two arguments are accepted one by one. -/
theorem Catalog.accepts_pair (catalog : Catalog Code)
    (types : BaseTypes) (left right : BaseType) (first second : Predicate) :
    catalog.hierarchy.accepts (types.handles [left, right]) [first, second] =
      (catalog.isA (types.handle left) first &&
        catalog.isA (types.handle right) second) := by
  simp [Hierarchy.accepts, BaseTypes.handles, Catalog.isA]

/-! ## Functions with tables -/

namespace GenericFunction

/-- The entries of the function are the rows of a table. -/
def Has (function : GenericFunction Code) (types : BaseTypes)
    (rows : List Row) : Prop :=
  function.entries.map (fun entry => (entry.arguments, entry.returns)) =
    rows.map (Row.declared types)

variable {function : GenericFunction Code} {types : BaseTypes}
  {hierarchy : Hierarchy} (hplaced : types.Placed hierarchy) {rows : List Row}
  (hhas : function.Has types rows)

include hhas in
theorem Has.signatures_eq :
    function.signatures = (rows.map Row.arguments).map types.handles := by
  have hfirst := congrArg (List.map Prod.fst) hhas
  rw [List.map_map, List.map_map] at hfirst
  rw [signatures, List.map_map]
  exact hfirst

include hplaced hhas

theorem Has.isTruthTest_eq :
    function.isTruthTest = rows.all Row.isTruthTest := by
  have htests : function.isTruthTest = (function.entries.map fun entry =>
      (entry.arguments, entry.returns)).all fun declared =>
        declared.1.length == 1 && declared.2.id == Predicate.boolean.id := by
    rw [isTruthTest, List.all_map]
    rfl
  have hboolean : ∀ type : BaseType,
      ((types.handle type).id == Predicate.boolean.id) = (type == .boolean) := by
    intro type
    rw [Bool.eq_iff_iff, beq_iff_eq, beq_iff_eq]
    exact ⟨fun hid => hplaced.eq_of_ids_eq hid, fun htype => by rw [htype]; rfl⟩
  rw [htests, hhas, List.all_map]
  congr 1
  funext row
  simp only [Function.comp_apply, Row.declared, Row.isTruthTest,
    BaseTypes.handles, List.length_map, hboolean]

/-- A new row comes last. -/
theorem Has.putEntry {row : Row}
    (hnew : row.arguments ∉ rows.map Row.arguments)
    (implementation : Implementation Code) :
    GenericFunction.putEntry ⟨types.handles row.arguments,
        types.handle row.returns, implementation⟩ function.entries =
      function.entries ++ [⟨types.handles row.arguments,
        types.handle row.returns, implementation⟩] := by
  apply putEntry_eq_append
  intro existing hexisting hids
  have hmem : existing.arguments ∈ function.signatures :=
    List.mem_map_of_mem hexisting
  rw [hhas.signatures_eq] at hmem
  obtain ⟨arguments, harguments, heq⟩ := List.mem_map.mp hmem
  rw [← heq] at hids
  rw [hplaced.eq_of_handles_eq hids] at harguments
  exact hnew harguments

end GenericFunction

namespace Registry

/-- The function exists with this table and is no membership test. -/
def Tabulates (registry : Registry Code) (types : BaseTypes) (id : ℕ)
    (rows : List Row) : Prop :=
  ∃ function, registry.function? id = some function ∧
    function.role = .ordinary ∧ function.Has types rows

/-- The function exists and all its entries take one argument. -/
def Unary (registry : Registry Code) (id : ℕ) : Prop :=
  ∃ function, registry.function? id = some function ∧
    ∀ entry ∈ function.entries, entry.arguments.length = 1

/-- The base types are placed, and some functions have their tables or at least
entries with one argument only. -/
structure Furnished (types : BaseTypes) (tables : List (ℕ × List Row))
    (unary : List ℕ) (registry : Registry Code) : Prop where
  past : ∃ events, registry.Past events
  directed : registry.metric = .directed
  placed : types.Placed registry.hierarchy
  distinct : (tables.map Prod.fst ++ unary).Nodup
  tables : ∀ table ∈ tables, registry.Tabulates types table.1 table.2
  unary : ∀ id ∈ unary, registry.Unary id

section Keeps

variable {registered : Set ℕ} {before after : Registry Code}
  (hkeeps : Catalog.Keeps registered before.toCatalog after.toCatalog)
include hkeeps

theorem Tabulates.keeps {types : BaseTypes} {id : ℕ} {rows : List Row}
    (htable : before.Tabulates types id rows) (hid : id ∉ registered) :
    after.Tabulates types id rows := by
  obtain ⟨function, hfunction, hrole, hhas⟩ := htable
  obtain ⟨found, hfound, hextends⟩ := hkeeps.function? id function hid hfunction
  obtain ⟨hentries, hordinary⟩ := hextends.entries_eq hrole
  refine ⟨found, hfound, hordinary, ?_⟩
  rw [GenericFunction.Has, hentries]
  exact hhas

theorem Unary.keeps {id : ℕ} (hunary : before.Unary id) (hid : id ∉ registered) :
    after.Unary id := by
  obtain ⟨function, hfunction, hentries⟩ := hunary
  obtain ⟨found, hfound, hextends⟩ := hkeeps.function? id function hid hfunction
  exact ⟨found, hfound, hextends.forall_length_eq_one hentries⟩

theorem Furnished.keeps {types : BaseTypes} {tables : List (ℕ × List Row)}
    {unary : List ℕ} (hfurnished : before.Furnished types tables unary)
    {events : List Event} (hpast : after.Past events)
    (hclosed : ∀ id ∈ tables.map Prod.fst ++ unary, id ∉ registered) :
    after.Furnished types tables unary where
  past := ⟨events, hpast⟩
  directed := hkeeps.metric_eq.trans hfurnished.directed
  placed := {
    parent? := fun type parent hparent =>
      hkeeps.parent? _ _ (hfurnished.placed.parent? type parent hparent)
    distinct := hfurnished.placed.distinct }
  distinct := hfurnished.distinct
  tables table htable := (hfurnished.tables table htable).keeps hkeeps
    (hclosed _ (List.mem_append_left _ (List.mem_map_of_mem htable)))
  unary id hid := (hfurnished.unary id hid).keeps hkeeps
    (hclosed id (List.mem_append_right _ hid))

end Keeps

end Registry

/-! ## The base functions -/

namespace Library

def arithmeticTable : List Row :=
  [⟨[.int, .int], .int⟩, ⟨[.real, .real], .real⟩]

def joinTable : List Row :=
  [⟨[.string, .string], .string⟩, ⟨[.string, .any], .string⟩,
    ⟨[.any, .string], .string⟩]

def negTable : List Row :=
  [⟨[.real], .real⟩, ⟨[.boolean], .boolean⟩]

def isTable : List Row :=
  [⟨[.any, .any], .boolean⟩, ⟨[.real, .real], .boolean⟩]

def comparisonTable : List Row :=
  [⟨[.real, .real], .boolean⟩]

def intTable : List Row :=
  [⟨[.boolean], .int⟩, ⟨[.character], .int⟩, ⟨[.real], .int⟩]

def strTable : List Row :=
  [⟨[.any], .string⟩, ⟨[.int], .string⟩, ⟨[.character], .string⟩,
    ⟨[.function], .string⟩, ⟨[.predicate], .string⟩, ⟨[.list], .string⟩,
    ⟨[.map], .string⟩]

/-- The only table of truth tests. -/
def isEmptyTable : List Row :=
  [⟨[.list], .boolean⟩, ⟨[.string], .boolean⟩, ⟨[.map], .boolean⟩]

def sizeTable : List Row :=
  [⟨[.list], .int⟩, ⟨[.string], .int⟩, ⟨[.map], .int⟩]

def getTable : List Row :=
  [⟨[.list, .int], .any⟩, ⟨[.string, .int], .character⟩, ⟨[.map, .any], .any⟩]

def setTable : List Row :=
  [⟨[.list, .int, .any], .list⟩, ⟨[.string, .int, .character], .string⟩,
    ⟨[.map, .any, .any], .map⟩]

def printTable : List Row :=
  [⟨[], .null⟩, ⟨[.any], .null⟩]

/-- The tables of the functions on numbers without `add`, the latest first. -/
def numberTables (functions : NumberFunctions) : List (ℕ × List Row) :=
  [(functions.int, intTable), (functions.isGreaterThanEq, comparisonTable),
    (functions.isGreaterThan, comparisonTable),
    (functions.isLessThanEq, comparisonTable),
    (functions.isLessThan, comparisonTable), (functions.is, isTable),
    (functions.neg, negTable), (functions.pow, arithmeticTable),
    (functions.modulo, arithmeticTable), (functions.divide, arithmeticTable),
    (functions.times, arithmeticTable), (functions.sub, arithmeticTable)]

def collectionTables (functions : CollectionFunctions) : List (ℕ × List Row) :=
  [(functions.set, setTable), (functions.get, getTable),
    (functions.size, sizeTable)]

def reflectionTables (functions : ReflectionFunctions) : List (ℕ × List Row) :=
  [(functions.apply, [⟨[.function, .list], .any⟩]),
    (functions.cast, [⟨[.predicate, .any], .any⟩]),
    (functions.retag, [⟨[.predicate, .any], .any⟩]),
    (functions.isA, [⟨[.predicate, .predicate], .boolean⟩]),
    (functions.derive, [⟨[.predicate, .predicate], .null⟩]),
    (functions.typeOf, [⟨[.any], .predicate⟩])]

/-- The tables of all functions but `isEmpty`. -/
def tables (library : Library) : List (ℕ × List Row) :=
  (library.println, printTable) ::
    (reflectionTables library.reflection ++
      (collectionTables library.collections ++
        ((library.numbers.add, arithmeticTable ++ joinTable) ::
          (library.text, strTable) :: numberTables library.numbers)))

end Library

end PredicateDispatch
