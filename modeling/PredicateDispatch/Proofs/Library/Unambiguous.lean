import PredicateDispatch.Proofs.Library.Installation

/-!
# Calls of the base functions

Every table of the base library has meets, so that under the directed metric no
call of a base function is ambiguous, whatever types its arguments have and
wherever these are in the forest.  Which entry of `add` is selected depends on
nothing but which of four base types are above those of the arguments.
-/

namespace PredicateDispatch

variable {Code : Type}

namespace Registry

/-- The call selects an entry for this signature, whether or not ties are
tolerated. -/
def Selects (registry : Registry Code) (id : ℕ) (types signature : Signature) :
    Prop :=
  ∃ entry, entry.arguments = signature ∧ ∀ tolerateTie,
    (registry.resolve id types tolerateTie).1 = .ok (some entry)

/-- No entry accepts the call, and there is no tie. -/
def SelectsNone (registry : Registry Code) (id : ℕ) (types : Signature) : Prop :=
  ∀ tolerateTie, (registry.resolve id types tolerateTie).1 = .ok none

section Outcome

variable {registry : Registry Code} {id : ℕ} {types : Signature}

theorem Selects.signature_eq {left right : Signature}
    (hleft : registry.Selects id types left)
    (hright : registry.Selects id types right) : left = right := by
  obtain ⟨entry, rfl, hentry⟩ := hleft
  obtain ⟨other, rfl, hother⟩ := hright
  have heq := (hentry true).symm.trans (hother true)
  rw [Option.some.inj (Except.ok.inj heq)]

theorem Selects.not_selectsNone {signature : Signature}
    (hselects : registry.Selects id types signature) :
    ¬ registry.SelectsNone id types := by
  intro hnone
  obtain ⟨entry, -, hentry⟩ := hselects
  cases (hentry true).symm.trans (hnone true)

/-- A function with meets answers every call with the lowest accepting entry, or
there is none that accepts the call. -/
theorem Past.selects_of_meets {events : List Event} (hpast : registry.Past events)
    (hdirected : registry.metric = .directed)
    {function : GenericFunction Code}
    (hfunction : registry.function? id = some function)
    (hmeets : registry.hierarchy.Meets function.signatures types) :
    ((∀ declared ∈ function.signatures,
        registry.hierarchy.accepts declared types = false) ∧
      registry.SelectsNone id types) ∨
    ∃ lowest ∈ function.signatures,
      registry.hierarchy.Lowest function.signatures types lowest ∧
      registry.Selects id types lowest := by
  have horderly := hpast.reachable.orderly
  have hanswer := hpast.reachable.cacheSound.resolve_answer hfunction types
  have hnodup := horderly.nodup id function hfunction
  rw [← function.map_ids_signatures] at hnodup
  rcases horderly.coherent.settled_of_meets hnodup hmeets with
    ⟨hrejects, hnone⟩ | ⟨index, lowest, hindex, hlowest, hunique⟩
  · refine Or.inl ⟨hrejects, fun tolerateTie => ?_⟩
    rw [hanswer, hdirected, hnone]
    exact congrArg Except.ok (registry.entryAt?_none id)
  · refine Or.inr ⟨lowest, List.mem_of_getElem? hindex, hlowest, ?_⟩
    rw [GenericFunction.signatures, List.getElem?_map] at hindex
    obtain ⟨entry, hentry, rfl⟩ := Option.map_eq_some_iff.mp hindex
    refine ⟨entry, rfl, fun tolerateTie => ?_⟩
    rw [hanswer, hdirected, hunique]
    simp only [Resolution.answer, Except.map, entryAt?, hfunction, hentry]

end Outcome

namespace Furnished

variable {registry : Registry Code} {types : BaseTypes}
  {tables : List (ℕ × List Row)} {unary : List ℕ}
  (hfurnished : registry.Furnished types tables unary)
include hfurnished

/-- A function with one-argument entries only is settled for every call. -/
theorem exists_resolve_of_unary {id : ℕ} (hid : id ∈ unary) (actual : Signature)
    (tolerateTie : Bool) :
    ∃ entry, (registry.resolve id actual tolerateTie).1 = .ok entry := by
  obtain ⟨events, hpast⟩ := hfurnished.past
  obtain ⟨function, hfunction, hentries⟩ := hfurnished.unary id hid
  have hmeets : registry.hierarchy.Meets function.signatures actual := by
    by_cases hshort : actual.length ≤ 1
    · exact hpast.reachable.orderly.coherent.meets_of_short _ hshort
    · -- A longer call is accepted by no entry.
      intro left hleft _ _ haccepts _
      obtain ⟨entry, hentry, rfl⟩ := List.mem_map.mp hleft
      obtain ⟨single, hsingle⟩ := List.length_eq_one_iff.mp (hentries entry hentry)
      rw [hsingle] at haccepts
      match actual, hshort with
      | [], hshort => exact absurd (Nat.zero_le 1) hshort
      | [_], hshort => exact absurd (Nat.le_refl 1) hshort
      | _ :: _ :: _, _ => simp [Hierarchy.accepts] at haccepts
  rcases hpast.selects_of_meets hfurnished.directed hfunction hmeets with
    ⟨-, hnone⟩ | ⟨lowest, -, -, entry, -, hentry⟩
  · exact ⟨none, hnone tolerateTie⟩
  · exact ⟨some entry, hentry tolerateTie⟩

section Table

variable {id : ℕ} {rows : List Row} (htable : (id, rows) ∈ tables)
  (hmeets : BaseType.HasMeets (rows.map Row.arguments)) (actual : Signature)
include htable hmeets

/-- A call of a function with a table selects its lowest accepting row. -/
theorem selects_row :
    ((∀ row ∈ rows.map Row.arguments,
        registry.hierarchy.accepts (types.handles row) actual = false) ∧
      registry.SelectsNone id actual) ∨
    ∃ row ∈ rows.map Row.arguments,
      registry.hierarchy.accepts (types.handles row) actual = true ∧
      (∀ other ∈ rows.map Row.arguments,
        registry.hierarchy.accepts (types.handles other) actual = true →
          BaseType.aboveAll other row = true) ∧
      registry.Selects id actual (types.handles row) := by
  obtain ⟨events, hpast⟩ := hfurnished.past
  obtain ⟨function, hfunction, -, hhas⟩ := hfurnished.tables _ htable
  have hcoherent := hpast.reachable.orderly.coherent
  have hmeets' := hfurnished.placed.meets hcoherent hmeets actual
  rw [← hhas.signatures_eq] at hmeets'
  rcases hpast.selects_of_meets hfurnished.directed hfunction hmeets' with
    ⟨hrejects, hnone⟩ | ⟨lowest, hmem, hlowest, hselects⟩
  · rw [hhas.signatures_eq] at hrejects
    exact Or.inl ⟨fun row hrow => hrejects _ (List.mem_map_of_mem hrow), hnone⟩
  · rw [hhas.signatures_eq] at hmem hlowest
    obtain ⟨row, hrow, rfl⟩ := List.mem_map.mp hmem
    refine Or.inr ⟨row, hrow, hlowest.accepts, fun other hother haccepts => ?_,
      hselects⟩
    rw [← hfurnished.placed.accepts_handles hcoherent]
    exact hlowest.below _ (List.mem_map_of_mem hother) haccepts

theorem exists_resolve (tolerateTie : Bool) :
    ∃ entry, (registry.resolve id actual tolerateTie).1 = .ok entry := by
  rcases hfurnished.selects_row htable hmeets actual with
    ⟨-, hnone⟩ | ⟨_, -, -, -, entry, -, hentry⟩
  · exact ⟨none, hnone tolerateTie⟩
  · exact ⟨some entry, hentry tolerateTie⟩

theorem selectsNone_iff :
    registry.SelectsNone id actual ↔ ∀ row ∈ rows.map Row.arguments,
      registry.hierarchy.accepts (types.handles row) actual = false := by
  rcases hfurnished.selects_row htable hmeets actual with
    ⟨hrejects, hnone⟩ | ⟨row, hrow, haccepts, -, hselects⟩
  · exact iff_of_true hnone hrejects
  · refine iff_of_false hselects.not_selectsNone fun hrejects => ?_
    cases haccepts.symm.trans (hrejects row hrow)

/-- A row is selected if it accepts the call and no accepting row is elsewhere
than above it. -/
theorem selects_iff {row : List BaseType} (hrow : row ∈ rows.map Row.arguments) :
    registry.Selects id actual (types.handles row) ↔
      registry.hierarchy.accepts (types.handles row) actual = true ∧
      ∀ other ∈ rows.map Row.arguments,
        registry.hierarchy.accepts (types.handles other) actual = true →
          BaseType.aboveAll other row = true := by
  obtain ⟨events, hpast⟩ := hfurnished.past
  have hcoherent := hpast.reachable.orderly.coherent
  rcases hfurnished.selects_row htable hmeets actual with
    ⟨hrejects, hnone⟩ | ⟨lowest, hmem, haccepts, hlowest, hselects⟩
  · refine iff_of_false (fun hselects => hselects.not_selectsNone hnone)
      fun ⟨haccepts, _⟩ => ?_
    cases haccepts.symm.trans (hrejects row hrow)
  · constructor
    · intro hother
      have hids := congrArg Signature.ids (hother.signature_eq hselects)
      rw [hfurnished.placed.eq_of_handles_eq hids]
      exact ⟨haccepts, hlowest⟩
    · rintro ⟨hrow_accepts, hbelow⟩
      -- Each of the two rows is above the other one.
      have hids := hcoherent.ids_eq_of_accepts_of_accepts
        ((hfurnished.placed.accepts_handles hcoherent row lowest).trans
          (hlowest row hrow hrow_accepts))
        ((hfurnished.placed.accepts_handles hcoherent lowest row).trans
          (hbelow lowest hmem haccepts))
      rw [hfurnished.placed.eq_of_handles_eq hids]
      exact hselects

end Table

end Furnished

end Registry

/-! ## Calls with two arguments -/

section Pairs

variable (types : BaseTypes) (registry : Registry Code) (id : ℕ)
  (first second : Predicate)

/-- Both types are below their declared ones, or equal to them. -/
def Registry.BothAre (registry : Registry Code)
    (first second declared declared' : Predicate) : Prop :=
  registry.isA declared first = true ∧ registry.isA declared' second = true

/-- A function on two numbers has an entry for integers, one for all other
numbers, and none for anything else. -/
structure Library.CallsOnNumbers : Prop where
  int : registry.Selects id [first, second] [types.int, types.int] ↔
    registry.BothAre first second types.int types.int
  real : registry.Selects id [first, second] [types.real, types.real] ↔
    registry.BothAre first second types.real types.real ∧
      ¬ registry.BothAre first second types.int types.int
  none : registry.SelectsNone id [first, second] ↔
    ¬ registry.BothAre first second types.real types.real

/-- Addition also joins texts, and renders the other argument of a text if that
is no text. -/
structure Library.CallsOfAdd : Prop where
  int : registry.Selects id [first, second] [types.int, types.int] ↔
    registry.BothAre first second types.int types.int
  real : registry.Selects id [first, second] [types.real, types.real] ↔
    registry.BothAre first second types.real types.real ∧
      ¬ registry.BothAre first second types.int types.int
  join : registry.Selects id [first, second] [types.string, types.string] ↔
    registry.BothAre first second types.string types.string
  append : registry.Selects id [first, second] [types.string, Predicate.any] ↔
    registry.BothAre first second types.string Predicate.any ∧
      registry.isA types.string second = false
  prepend : registry.Selects id [first, second] [Predicate.any, types.string] ↔
    registry.BothAre first second Predicate.any types.string ∧
      registry.isA types.string first = false
  none : registry.SelectsNone id [first, second] ↔
    ¬ registry.BothAre first second types.real types.real ∧
      ¬ registry.BothAre first second types.string Predicate.any ∧
        ¬ registry.BothAre first second Predicate.any types.string

end Pairs

namespace Registry.Furnished

variable {registry : Registry Code} {types : BaseTypes}
  {tables : List (ℕ × List Row)} {unary : List ℕ}
  (hfurnished : registry.Furnished types tables unary) {id : ℕ}
include hfurnished

/-- What the forest says of a type that is below base types. -/
theorem isA_base (type : Predicate) :
    (registry.isA types.int type = true → registry.isA types.real type = true) ∧
    (registry.isA types.real type = true →
      registry.isA Predicate.any type = true) ∧
    (registry.isA types.string type = true →
      registry.isA Predicate.any type = true) ∧
    ¬ (registry.isA types.real type = true ∧
      registry.isA types.string type = true) := by
  obtain ⟨events, hpast⟩ := hfurnished.past
  have hcoherent := hpast.reachable.orderly.coherent
  have hplaced := hfurnished.placed.isA_handle hcoherent
  refine ⟨hcoherent.isA_trans (hplaced .real .int),
    hcoherent.isA_trans (hplaced .any .real),
    hcoherent.isA_trans (hplaced .any .string), fun ⟨hreal, hstring⟩ => ?_⟩
  have hnone := hfurnished.placed.isA_eq_false_of_apart hcoherent .real .string hreal
    (by decide)
  cases hstring.symm.trans hnone

/-- A row for two arguments is selected unless a row that is elsewhere than
above it accepts the call. -/
theorem selects_pair_iff {rows : List Row} (htable : (id, rows) ∈ tables)
    (hmeets : BaseType.HasMeets (rows.map Row.arguments))
    (left right : BaseType) (hrow : [left, right] ∈ rows.map Row.arguments)
    (elsewhere : List (List BaseType))
    (helsewhere : (rows.map Row.arguments).filter
      (fun other => !BaseType.aboveAll other [left, right]) = elsewhere)
    (first second : Predicate) :
    registry.Selects id [first, second]
        [types.handle left, types.handle right] ↔
      registry.BothAre first second (types.handle left) (types.handle right) ∧
      ∀ other ∈ elsewhere, registry.hierarchy.accepts (types.handles other)
        [first, second] = false := by
  subst helsewhere
  refine (hfurnished.selects_iff htable hmeets [first, second] hrow).trans ?_
  rw [Catalog.accepts_pair, Bool.and_eq_true]
  refine and_congr_right fun _ => ?_
  constructor
  · intro hbelow other hother
    obtain ⟨hmem, houtside⟩ := List.mem_filter.mp hother
    rw [Bool.eq_false_iff]
    intro haccepts
    rw [hbelow other hmem haccepts] at houtside
    cases houtside
  · intro hrejects other hmem haccepts
    by_contra houtside
    rw [Bool.not_eq_true] at houtside
    have hother : other ∈ (rows.map Row.arguments).filter
        (fun other => !BaseType.aboveAll other [left, right]) :=
      List.mem_filter.mpr ⟨hmem, by rw [houtside]; rfl⟩
    cases haccepts.symm.trans (hrejects other hother)

theorem callsOnNumbers (htable : (id, Library.arithmeticTable) ∈ tables)
    (first second : Predicate) :
    Library.CallsOnNumbers types registry id first second := by
  have hmeets : BaseType.HasMeets
      (Library.arithmeticTable.map Row.arguments) := by decide
  have hselects := hfurnished.selects_pair_iff htable hmeets
  have hnone := hfurnished.selectsNone_iff htable hmeets [first, second]
  obtain ⟨hfirst, -⟩ := hfurnished.isA_base first
  obtain ⟨hsecond, -⟩ := hfurnished.isA_base second
  constructor
  · refine (hselects .int .int (by decide) [] rfl first second).trans ?_
    exact and_iff_left fun _ hother => absurd hother List.not_mem_nil
  · refine (hselects .real .real (by decide) [[.int, .int]] rfl first
      second).trans ?_
    simp only [List.forall_mem_cons, Catalog.accepts_pair, BaseTypes.handle, BothAre,
      Bool.and_eq_false_iff]
    grind
  · refine hnone.trans ?_
    simp only [Library.arithmeticTable, List.map_cons, List.forall_mem_cons,
      Catalog.accepts_pair, BaseTypes.handle, BothAre, Bool.and_eq_false_iff]
    grind

theorem callsOfAdd
    (htable : (id, Library.arithmeticTable ++ Library.joinTable) ∈ tables)
    (first second : Predicate) :
    Library.CallsOfAdd types registry id first second := by
  have hmeets : BaseType.HasMeets
      ((Library.arithmeticTable ++ Library.joinTable).map Row.arguments) := by
    decide
  have hselects := hfurnished.selects_pair_iff htable hmeets
  have hnone := hfurnished.selectsNone_iff htable hmeets [first, second]
  obtain ⟨hint, hreal, hstring, hapart⟩ := hfurnished.isA_base first
  obtain ⟨hint', hreal', hstring', hapart'⟩ := hfurnished.isA_base second
  constructor
  · refine (hselects .int .int (by decide)
      [[.string, .string], [.string, .any], [.any, .string]] rfl first
      second).trans ?_
    simp only [List.forall_mem_cons, Catalog.accepts_pair, BaseTypes.handle, BothAre,
      Bool.and_eq_false_iff]
    grind
  · refine (hselects .real .real (by decide)
      [[.int, .int], [.string, .string], [.string, .any], [.any, .string]] rfl
      first second).trans ?_
    simp only [List.forall_mem_cons, Catalog.accepts_pair, BaseTypes.handle, BothAre,
      Bool.and_eq_false_iff]
    grind
  · refine (hselects .string .string (by decide)
      [[.int, .int], [.real, .real]] rfl first second).trans ?_
    simp only [List.forall_mem_cons, Catalog.accepts_pair, BaseTypes.handle, BothAre,
      Bool.and_eq_false_iff]
    grind
  · refine (hselects .string .any (by decide)
      [[.int, .int], [.real, .real], [.string, .string], [.any, .string]] rfl
      first second).trans ?_
    simp only [List.forall_mem_cons, Catalog.accepts_pair, BaseTypes.handle, BothAre,
      Bool.and_eq_false_iff]
    grind
  · refine (hselects .any .string (by decide)
      [[.int, .int], [.real, .real], [.string, .string], [.string, .any]] rfl
      first second).trans ?_
    simp only [List.forall_mem_cons, Catalog.accepts_pair, BaseTypes.handle, BothAre,
      Bool.and_eq_false_iff]
    grind
  · refine hnone.trans ?_
    simp only [Library.arithmeticTable, Library.joinTable, List.cons_append,
      List.nil_append, List.map_cons, List.forall_mem_cons, Catalog.accepts_pair,
      BaseTypes.handle, BothAre, Bool.and_eq_false_iff]
    grind

end Registry.Furnished

namespace Library

/-- All base functions, in the order of their tables. -/
def functions (library : Library) : List ℕ :=
  [library.println, library.reflection.apply, library.reflection.cast,
    library.reflection.retag, library.reflection.isA, library.reflection.derive,
    library.reflection.typeOf, library.collections.set, library.collections.get,
    library.collections.size, library.numbers.add, library.text,
    library.numbers.int, library.numbers.isGreaterThanEq,
    library.numbers.isGreaterThan, library.numbers.isLessThanEq,
    library.numbers.isLessThan, library.numbers.is, library.numbers.neg,
    library.numbers.pow, library.numbers.modulo, library.numbers.divide,
    library.numbers.times, library.numbers.sub, library.collections.isEmpty]

theorem functions_eq (library : Library) :
    library.functions =
      library.tables.map Prod.fst ++ [library.collections.isEmpty] := rfl

theorem hasMeets_of_mem_tables (library : Library) :
    ∀ table ∈ library.tables,
      BaseType.HasMeets (table.2.map Row.arguments) := by
  simp only [tables, reflectionTables, collectionTables, numberTables,
    List.cons_append, List.nil_append, List.forall_mem_cons]
  decide

end Library

open Library in
/-- Installing the base library into any registry with a past and the directed
metric succeeds.  However the registry then grows by operations that join its
own predicates and register nothing on a base function, no call of a base
function is ambiguous, and the entries of `add` and of the other functions on
two numbers are selected by the base types above those of the arguments. -/
theorem base_calls_unambiguous {Custom : Type} (runTask : Runner (Body Custom))
    {world : World (Body Custom)} {events : List Event}
    (hpast : world.registry.Past events)
    (hmetric : world.registry.metric = .directed) :
    ∃ (library : Library) (after : World (Body Custom)),
      install.runWith runTask world = some (.ok library, after) ∧
      ∀ registry, Registry.GrownFrom library.functions after.registry registry →
        (∀ id ∈ library.functions, ∀ types tolerateTie, ∃ entry,
          (registry.resolve id types tolerateTie).1 = .ok entry) ∧
        (∀ first second,
          CallsOfAdd library.types registry library.numbers.add first second) ∧
        (∀ id ∈ [library.numbers.sub, library.numbers.times,
            library.numbers.divide, library.numbers.modulo, library.numbers.pow],
          ∀ first second,
            CallsOnNumbers library.types registry id first second) := by
  have hyields : install.Yields runTask world fun library after =>
      after.registry.Furnished library.types library.tables
        [library.collections.isEmpty] := install_yields hpast hmetric
  obtain ⟨library, after, hinstall, hfurnished⟩ := hyields
  refine ⟨library, after, hinstall, fun registry hgrown => ?_⟩
  obtain ⟨past, hafter⟩ := hfurnished.past
  obtain ⟨⟨past', hregistry⟩, hkeeps⟩ := hgrown.keeps hafter
  have hgrown_furnished := hfurnished.keeps hkeeps hregistry
    fun id hid hopen => hopen (functions_eq library ▸ hid)
  refine ⟨fun id hid types tolerateTie => ?_, fun first second => ?_,
    fun id hid first second => ?_⟩
  · rw [functions_eq] at hid
    rcases List.mem_append.mp hid with htable | hisEmpty
    · obtain ⟨table, hmem, rfl⟩ := List.mem_map.mp htable
      exact hgrown_furnished.exists_resolve hmem
        (hasMeets_of_mem_tables library table hmem) types tolerateTie
    · exact hgrown_furnished.exists_resolve_of_unary hisEmpty types tolerateTie
  · exact hgrown_furnished.callsOfAdd
      (by simp [tables, reflectionTables, collectionTables]) first second
  · refine hgrown_furnished.callsOnNumbers ?_ first second
    have hnumbers : (id, arithmeticTable) ∈ numberTables library.numbers := by
      revert hid
      simp only [List.mem_cons, List.not_mem_nil, or_false]
      rintro (rfl | rfl | rfl | rfl | rfl) <;> simp [numberTables]
    simp [tables, reflectionTables, collectionTables, hnumbers]

/-- A registry with nothing but the kernel, before the base library. -/
def bareWorld : World (Body Empty) where
  registry := .fresh {}

/-- A type above the root, one of even integers and one of names. -/
def growth (types : BaseTypes) : List (Operation (Body Empty)) :=
  [.createPredicate "isRoot", .derive ⟨12, "isRoot"⟩ Predicate.any,
    .definePredicate "isEven" types.int, .definePredicate "isName" types.string]

/-- What the grown forest says of the new types. -/
def GrowthIsSeen (types : BaseTypes) (registry : Registry (Body Empty)) : Prop :=
  registry.isA ⟨12, "isRoot"⟩ Predicate.any = true ∧
  (registry.isA types.int ⟨13, "isEven"⟩ = true ∧
    registry.isA types.string ⟨13, "isEven"⟩ = false) ∧
  (registry.isA types.string ⟨14, "isName"⟩ = true ∧
    registry.isA Predicate.any ⟨13, "isEven"⟩ = true) ∧
  registry.isA types.real ⟨12, "isRoot"⟩ = false

instance (types : BaseTypes) (registry : Registry (Body Empty)) :
    Decidable (GrowthIsSeen types registry) :=
  inferInstanceAs
    (Decidable (_ = _ ∧ (_ = _ ∧ _ = _) ∧ (_ = _ ∧ _ = _) ∧ _ = _))

/-- A registry, and nothing that came before. -/
def sinceNow (world : World (Body Empty)) : History (Body Empty) :=
  ⟨world.registry, []⟩

theorem growthIsSeen_bareWorld :
    ((Library.install.runWith (fun _ _ _ => none) bareWorld).bind fun result =>
      result.1.toOption.map fun library =>
        decide ((sinceNow result.2).admitsAll (growth library.types) = true ∧
          GrowthIsSeen library.types
            ((sinceNow result.2).run (growth library.types)).registry)) =
      some true := by
  decide +kernel

theorem base_calls_unambiguous_growth :
    ∃ (library : Library) (after : World (Body Empty))
      (registry : Registry (Body Empty)),
      Library.install.runWith (fun _ _ _ => none) bareWorld =
        some (.ok library, after) ∧
      ((sinceNow after).run (growth library.types)).registry = registry ∧
      registry.isA ⟨12, "isRoot"⟩ Predicate.any = true ∧
      registry.Selects library.numbers.pow [⟨13, "isEven"⟩, ⟨13, "isEven"⟩]
        [library.types.int, library.types.int] ∧
      registry.Selects library.numbers.add [⟨14, "isName"⟩, ⟨13, "isEven"⟩]
        [library.types.string, Predicate.any] ∧
      registry.SelectsNone library.numbers.sub
        [⟨12, "isRoot"⟩, ⟨12, "isRoot"⟩] := by
  have hpast : bareWorld.registry.Past Registry.kernelPast := .fresh {}
  obtain ⟨library, after, hinstall, hgrown⟩ :=
    base_calls_unambiguous (fun _ _ _ => none) hpast rfl
  have hseen := growthIsSeen_bareWorld
  rw [hinstall] at hseen
  obtain ⟨hadmits, hseen⟩ := of_decide_eq_true (Option.some.inj hseen)
  have hgrowth : Registry.GrownFrom library.functions after.registry
      ((sinceNow after).run (growth library.types)).registry :=
    Registry.GrownFrom.refl.run hadmits (by simp [growth, Operation.registered])
  generalize hregistry :
    ((sinceNow after).run (growth library.types)).registry = registry at hseen hgrowth
  obtain ⟨hroot, ⟨heven, hother⟩, ⟨hname, hany⟩, hreal⟩ := hseen
  obtain ⟨-, hadd, hnumbers⟩ := hgrown registry hgrowth
  refine ⟨library, after, registry, hinstall, hregistry, hroot, ?_, ?_, ?_⟩
  · exact (hnumbers _ (by simp) _ _).int.mpr ⟨heven, heven⟩
  · exact (hadd _ _).append.mpr ⟨⟨hname, hany⟩, hother⟩
  · refine (hnumbers _ (by simp) _ _).none.mpr fun ⟨hfirst, _⟩ => ?_
    cases hreal.symm.trans hfirst

end PredicateDispatch
