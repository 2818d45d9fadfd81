import PredicateDispatch.Proofs.Library.Depth
import PredicateDispatch.Proofs.Library.Sequences
import PredicateDispatch.Proofs.Number.Comparison

/-!
# Comparing numbers in a registry

The comparisons and `is` read one order of two numbers, each in its own way, and so
agree with each other, and with the equality of payloads that `is` falls back on for
other types.  Whether `is` has an answer at all is a matter of its two entries: the
symmetric metric cannot tell them apart when both types are too far below `isReal`,
and then the call is ambiguous.
-/

namespace PredicateDispatch

namespace Library

variable {Custom : Type} {custom : Custom → List Value → Program (Body Custom) Value}
  {catalog : Catalog (Body Custom)} {types : BaseTypes} {id : ℕ} {a b : Value}

/-- The value is tagged as a number and stands for this double. -/
structure IsNumeric (catalog : Catalog (Body Custom)) (types : BaseTypes)
    (value : Value) (x : Float) : Prop where
  type : catalog.isA types.real value.type = true
  reads : value.payload.real? = some x

/-- The function answers the pair with this truth value. -/
def Tells (custom : Custom → List Value → Program (Body Custom) Value)
    (catalog : Catalog (Body Custom)) (id : ℕ) (a b : Value) (truth : Bool) : Prop :=
  Answers custom catalog id [a, b] (.ok (.boolean truth))

theorem tells_of_picks {row : Row} {primitive : Primitive} {truth : Bool}
    (hpicks : catalog.Picks id ([a, b].map Value.type) (types.entry (row, primitive)))
    (hreturns : row.returns = .boolean)
    (hrun : (primitive.run [a, b] : Program (Body Custom) Value) =
      .done (.ok (.boolean truth))) :
    Tells custom catalog id a b truth := by
  refine answers_value hpicks hrun ?_
  rw [hreturns]
  exact Hierarchy.isA_self _ Predicate.boolean

/-! ## What the code answers -/

theorem run_comparison {accepted : Numbers.Comparison} {order : Option Ordering}
    (hcompare : Numbers.compare a.payload b.payload = .ok order) :
    ((Primitive.comparison accepted).run [a, b] : Program (Body Custom) Value) =
      .done (.ok (.boolean ((order.map accepted.holds).getD false))) := by
  change Program.done (Numbers.compare a.payload b.payload >>= fun order =>
    .ok (Value.boolean ((order.map accepted.holds).getD false))) = _
  rw [hcompare]
  rfl

theorem run_equalNumbers {order : Option Ordering}
    (hcompare : Numbers.compare a.payload b.payload = .ok order) :
    (Primitive.equalNumbers.run [a, b] : Program (Body Custom) Value) =
      .done (.ok (.boolean (order == some .eq))) := by
  change Program.done (Numbers.compare a.payload b.payload >>= fun order =>
    .ok (Value.boolean (order == some .eq))) = _
  rw [hcompare]
  rfl

theorem run_equalPayloads (a b : Value) :
    (Primitive.equalPayloads.run [a, b] : Program (Body Custom) Value) =
      .done (.ok (.boolean (a.payload == b.payload))) :=
  rfl

/-! ## What the functions pick -/

theorem apart_comparisonTable : Apart comparisonTable := by decide

theorem tells_comparison {accepted : Numbers.Comparison}
    (hprovides : catalog.Provides types id (comparisonFittings accepted))
    (ha : catalog.isA types.real a.type = true)
    (hb : catalog.isA types.real b.type = true) {order : Option Ordering}
    (hcompare : Numbers.compare a.payload b.payload = .ok order) :
    Tells custom catalog id a b ((order.map accepted.holds).getD false) := by
  have hrow : (⟨[.real, .real], .boolean⟩, .comparison accepted) ∈
      comparisonFittings accepted := by simp [comparisonFittings, comparisonTable]
  have haccepts : catalog.hierarchy.accepts (types.handles [.real, .real])
      [a.type, b.type] = true :=
    Hierarchy.accepts_iff_covers.mpr (.cons ha (.cons hb .nil))
  have hpicks : catalog.Picks id ([a, b].map Value.type)
      (types.entry (⟨[.real, .real], .boolean⟩, .comparison accepted)) :=
    picks_of_apart hprovides rfl apart_comparisonTable hrow haccepts
  exact tells_of_picks hpicks rfl (run_comparison hcompare)

section Is

variable (hprovides : catalog.Provides types id isFittings)
include hprovides

/-- Values that are not both numbers are compared as payloads. -/
theorem tells_is_of_not_reals (ha : catalog.isA Predicate.any a.type = true)
    (hb : catalog.isA Predicate.any b.type = true)
    (hnot : (catalog.isA types.real a.type && catalog.isA types.real b.type) = false) :
    Tells custom catalog id a b (a.payload == b.payload) := by
  have hrow : (⟨[.any, .any], .boolean⟩, .equalPayloads) ∈ isFittings := by
    simp [isFittings, isTable]
  have haccepts : catalog.hierarchy.accepts (types.handles [.any, .any])
      [a.type, b.type] = true :=
    Hierarchy.accepts_iff_covers.mpr (.cons ha (.cons hb .nil))
  have hpicks : catalog.Picks id ([a, b].map Value.type)
      (types.entry (⟨[.any, .any], .boolean⟩, .equalPayloads)) := by
    refine hprovides.picks (by decide) hrow haccepts fun other hother hne hreals => ?_
    obtain rfl : other = [.real, .real] := by
      have hcases : ∀ other ∈ isTable.map Row.arguments, other ≠ [.any, .any] →
          other = [.real, .real] := by decide
      exact hcases other hother hne
    have hboth := (Catalog.accepts_pair catalog types .real .real a.type b.type).symm.trans
      hreals
    exact absurd (hnot.symm.trans hboth) Bool.false_ne_true
  exact tells_of_picks hpicks rfl (run_equalPayloads a b)

variable (ha : catalog.isA types.real a.type = true)
  (hb : catalog.isA types.real b.type = true)
include ha hb

/-- Two numbers are compared as such, if the metric tells the entries apart. -/
theorem tells_is_of_reals
    (htells : catalog.hierarchy.Tells catalog.metric types.real a.type b.type)
    {order : Option Ordering}
    (hcompare : Numbers.compare a.payload b.payload = .ok order) :
    Tells custom catalog id a b (order == some .eq) := by
  have hrow : (⟨[.real, .real], .boolean⟩, .equalNumbers) ∈ isFittings := by
    simp [isFittings, isTable]
  have hpicks : catalog.Picks id ([a, b].map Value.type)
      (types.entry (⟨[.real, .real], .boolean⟩, .equalNumbers)) :=
    hprovides.picks_lower .real rfl (by decide) hrow rfl (by decide) ha hb htells
  exact tells_of_picks hpicks rfl (run_equalNumbers hcompare)

/-- And otherwise they are not compared at all. -/
theorem is_ambiguous
    (hnot : ¬ catalog.hierarchy.Tells catalog.metric types.real a.type b.type) :
    ∃ name, Answers custom catalog id [a, b] (.error (.ambiguous name
      [a.type, b.type] [types.handles [.any, .any], types.handles [.real, .real]])) := by
  obtain ⟨hreals, hanys⟩ :=
    hprovides.placed.accepts_parents hprovides.coherent .real rfl ha hb
  obtain ⟨hle, hlt⟩ := hprovides.placed.totalDistance_parents hprovides.coherent .real
    rfl ha hb catalog.metric
  have htie := hle.antisymm (Nat.le_of_not_lt fun hnearer => hnot (hlt.mp hnearer))
  exact hprovides.computes_ambiguous [a, b] hanys hreals htie.symm

end Is

/-! ## The comparisons together -/

/-- The function that accepts these orders. -/
def comparisonFunction (functions : NumberFunctions) : Numbers.Comparison → ℕ
  | .less => functions.isLessThan
  | .lessOrEqual => functions.isLessThanEq
  | .greater => functions.isGreaterThan
  | .greaterOrEqual => functions.isGreaterThanEq

theorem comparison_mem_numberFittings (types : BaseTypes) (functions : NumberFunctions)
    (accepted : Numbers.Comparison) :
    (comparisonFunction functions accepted, comparisonFittings accepted) ∈
      numberFittings types functions := by
  cases accepted <;> simp [comparisonFunction, numberFittings]

/-- What the comparisons and `is` have to do with each other on two numbers, of which
it is less, equal or greater that holds, or with NaN none of it. -/
structure ComparisonLaws (custom : Custom → List Value → Program (Body Custom) Value)
    (catalog : Catalog (Body Custom)) (library : Library) (a b : Value)
    (less equal greater : Bool) : Prop where
  isLessThan : Tells custom catalog library.numbers.isLessThan a b less
  isGreaterThan : Tells custom catalog library.numbers.isGreaterThan a b greater
  isLessThanEq : Tells custom catalog library.numbers.isLessThanEq a b (less || equal)
  isGreaterThanEq :
    Tells custom catalog library.numbers.isGreaterThanEq a b (greater || equal)
  isLessThan_swapped : Tells custom catalog library.numbers.isLessThan b a greater
  isLessThanEq_swapped :
    Tells custom catalog library.numbers.isLessThanEq b a (greater || equal)
  is_near : catalog.hierarchy.Tells catalog.metric library.types.real a.type b.type →
    Tells custom catalog library.numbers.is a b equal
  is_far : ¬ catalog.hierarchy.Tells catalog.metric library.types.real a.type b.type →
    ∃ name, Answers custom catalog library.numbers.is [a, b] (.error (.ambiguous name
      [a.type, b.type] [[Predicate.any, Predicate.any],
        [library.types.real, library.types.real]]))
  is_payloads : ∀ v w : Value, v.payload = a.payload → w.payload = b.payload →
    (Primitive.equalPayloads.run [v, w] : Program (Body Custom) Value) =
        .done (.ok (.boolean equal)) ∧
      (catalog.isA Predicate.any v.type = true →
        catalog.isA Predicate.any w.type = true →
        (catalog.isA library.types.real v.type &&
          catalog.isA library.types.real w.type) = false →
          Tells custom catalog library.numbers.is v w equal)

/-- Wherever the base library has been installed and `is` and the comparisons have got
no further entries, these agree on all numbers: of two numbers one is less, or they
are equal, or it is greater, and with NaN nothing holds.  Only that `is` fails under
the symmetric metric, when both types are too far below `isReal`. -/
theorem comparisons_agree {library : Library} {registry : Registry (Body Custom)}
    (hinstalled : library.InstalledIn [library.numbers.is, library.numbers.isLessThan,
      library.numbers.isLessThanEq, library.numbers.isGreaterThan,
      library.numbers.isGreaterThanEq] registry)
    (custom : Custom → List Value → Program (Body Custom) Value) {a b : Value}
    {x y : Float} (ha : IsNumeric registry.toCatalog library.types a x)
    (hb : IsNumeric registry.toCatalog library.types b y) :
    ∃ less equal greater, ComparisonLaws custom registry.toCatalog library a b less equal
        greater ∧
      (x.isNaN = false → y.isNaN = false → [less, equal, greater].count true = 1) ∧
      (x.isNaN = true ∨ y.isNaN = true →
        less = false ∧ equal = false ∧ greater = false) := by
  have hfitting := library.numberFittings_subset
  have his : registry.Provides library.types library.numbers.is isFittings :=
    hinstalled.provides (by simp) (hfitting (by simp [numberFittings]))
  have hcomparison : ∀ accepted, registry.Provides library.types
      (comparisonFunction library.numbers accepted) (comparisonFittings accepted) :=
    fun accepted => hinstalled.provides (by cases accepted <;> simp [comparisonFunction])
      (hfitting (comparison_mem_numberFittings _ _ accepted))
  obtain ⟨order, hab, hba, hequal, hunordered⟩ :=
    Numbers.exists_compare_eq_of_real? ha.reads hb.reads
  have hleft : ∀ accepted truth, (order.map accepted.holds).getD false = truth →
      Tells custom registry.toCatalog (comparisonFunction library.numbers accepted)
        a b truth := by
    rintro accepted _ rfl
    exact tells_comparison (hcomparison accepted) ha.type hb.type hab
  have hright : ∀ accepted truth,
      ((order.map Ordering.swap).map accepted.holds).getD false = truth →
        Tells custom registry.toCatalog (comparisonFunction library.numbers accepted)
          b a truth := by
    rintro accepted _ rfl
    exact tells_comparison (hcomparison accepted) hb.type ha.type hba
  refine ⟨order == some .lt, order == some .eq, order == some .gt, {
    isLessThan := hleft .less _ ?_
    isGreaterThan := hleft .greater _ ?_
    isLessThanEq := hleft .lessOrEqual _ ?_
    isGreaterThanEq := hleft .greaterOrEqual _ ?_
    isLessThan_swapped := hright .less _ ?_
    isLessThanEq_swapped := hright .lessOrEqual _ ?_
    is_near := fun htells => tells_is_of_reals his ha.type hb.type htells hab
    is_far := is_ambiguous his ha.type hb.type
    is_payloads := ?payloads }, ?numbers, ?nan⟩
  case payloads =>
    rintro v w hv hw
    have hpayloads : (v.payload == w.payload) = (order == some .eq) := by
      rw [hv, hw, hequal]
    rw [← hpayloads]
    exact ⟨rfl, tells_is_of_not_reals his⟩
  case numbers =>
    intro hx hy
    rw [hx, hy, or_self_iff] at hunordered
    rcases order with _ | (_ | _ | _)
    · exact absurd (hunordered.mp rfl) Bool.false_ne_true
    all_goals rfl
  case nan =>
    intro hnan
    obtain rfl := hunordered.mpr hnan
    exact ⟨rfl, rfl, rfl⟩
  all_goals rcases order with _ | (_ | _ | _) <;> rfl

/-- Where two numbers have equal payloads, the value of `equal` is this. -/
theorem ComparisonLaws.equal_eq_true {catalog : Catalog (Body Custom)}
    {library : Library} {a b : Value} {less equal greater : Bool}
    (hlaws : ComparisonLaws custom catalog library a b less equal greater)
    (hequal : (a.payload == b.payload) = true) : equal = true := by
  have hrun := (hlaws.is_payloads a b rfl rfl).1
  rw [run_equalPayloads, hequal] at hrun
  cases equal with
  | true => rfl
  | false => cases hrun

/-- An integer equals a real; and a number that is a hundred links below the reals is
at most itself, but `is` finds two entries for it. -/
theorem comparisons_agree_deepReal :
    ∃ (library : Library) (registry : Registry (Body Empty)) (type : Predicate),
      library.DeepBelow .real registry type 100 ∧
      Tells nofun registry.toCatalog library.numbers.is (library.types.intValue 1)
        (library.types.realValue (Float.ofBits 0x3ff0000000000000)) true ∧
      Tells nofun registry.toCatalog library.numbers.isLessThanEq
        (.tagged (.int 1) type) (.tagged (.int 1) type) true ∧
      ∃ name, Answers nofun registry.toCatalog library.numbers.is
        [.tagged (.int 1) type, .tagged (.int 1) type] (.error (.ambiguous name
          [type, type] [[Predicate.any, Predicate.any],
            [library.types.real, library.types.real]])) := by
  obtain ⟨library, registry, type, hdeep⟩ := exists_deepBelow Empty .real 100
  have hclosed := hdeep.installed [library.numbers.is, library.numbers.isLessThan,
    library.numbers.isLessThanEq, library.numbers.isGreaterThan,
    library.numbers.isGreaterThanEq]
  have hbase := hclosed.isA_handle
  refine ⟨library, registry, type, hdeep, ?_, ?_⟩
  · obtain ⟨less, equal, greater, hlaws, -⟩ := comparisons_agree hclosed nofun
      (a := library.types.intValue 1)
      (b := library.types.realValue (Float.ofBits 0x3ff0000000000000))
      ⟨hbase .real .int, rfl⟩ ⟨hbase .real .real, rfl⟩
    have hequal : (Payload.int 1 == .real (Float.ofBits 0x3ff0000000000000)) = true := by
      decide +kernel
    obtain rfl := hlaws.equal_eq_true hequal
    refine hlaws.is_near fun _ => Or.inr ?_
    exact (Hierarchy.typeDistance_self _ rfl).trans_lt (by decide)
  · obtain ⟨less, equal, greater, hlaws, -⟩ := comparisons_agree hclosed nofun
      (a := .tagged (.int 1) type) (b := .tagged (.int 1) type)
      ⟨hdeep.below, rfl⟩ ⟨hdeep.below, rfl⟩
    obtain rfl := hlaws.equal_eq_true rfl
    have hatMost := hlaws.isLessThanEq
    rw [Bool.or_true] at hatMost
    refine ⟨hatMost, hlaws.is_far fun htells => ?_⟩
    have hnear := htells hdeep.metric
    rw [or_self_iff] at hnear
    exact absurd (hdeep.distance.symm.trans_lt hnear) (by decide)

end Library

end PredicateDispatch
