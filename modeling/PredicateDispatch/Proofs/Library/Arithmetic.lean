import PredicateDispatch.Proofs.Library.Depth
import PredicateDispatch.Proofs.Library.Sequences
import PredicateDispatch.Proofs.Number.Division

/-!
# Integers divided and raised to powers

Where the base library has been installed, `divide`, `mod` and `pow` compute exactly
on all values that are tagged as integers, of any size: integers, characters, and
reals without fractional part.  The quotient is floored and the remainder truncated.
The symmetric metric cannot tell the entry for integers from that for reals when both
types are too far below `isInt`, and then there is no result at all.
-/

namespace PredicateDispatch.Library

variable {Custom : Type} {custom : Custom → List Value → Program (Body Custom) Value}
  {catalog : Catalog (Body Custom)} {types : BaseTypes} {id : ℕ} {a b : Value} {m n : ℤ}

/-- The value is tagged as an integer and stands for this one, as indices do. -/
abbrev IsInteger (catalog : Catalog (Body Custom)) (types : BaseTypes) (value : Value)
    (n : ℤ) : Prop :=
  IsIndex catalog types value n

/-! ## The entry for integers -/

theorem run_intArithmetic (operation : Numbers.Arithmetic) (types : BaseTypes)
    (ha : a.payload.int? = some m) (hb : b.payload.int? = some n) :
    ((Primitive.intArithmetic operation types).run [a, b] :
        Program (Body Custom) Value) =
      .done (Numbers.onIntegers operation m n >>= fun result =>
        .ok (types.intValue result)) := by
  have hleft : Arguments.int [a, b] 0 = .ok m :=
    Arguments.read_eq_ok_iff.mpr ⟨a, rfl, ha⟩
  have hright : Arguments.int [a, b] 1 = .ok n :=
    Arguments.read_eq_ok_iff.mpr ⟨b, rfl, hb⟩
  change Program.done (Arguments.int [a, b] 0 >>= fun m =>
    Arguments.int [a, b] 1 >>= fun n =>
      Numbers.onIntegers operation m n >>= fun result =>
        .ok (types.intValue result)) = _
  rw [hleft, hright]
  rfl

section Arithmetic

variable {operation : Numbers.Arithmetic}
  (hprovides : catalog.Provides types id (arithmeticFittings types operation))
  (ha : IsInteger catalog types a m) (hb : IsInteger catalog types b n)
include hprovides ha hb

/-- Two integers are computed with exactly, if the metric tells the entries apart. -/
theorem answers_arithmetic
    (htells : catalog.hierarchy.Tells catalog.metric types.int a.type b.type) :
    Answers custom catalog id [a, b] (Numbers.onIntegers operation m n >>= fun result =>
      .ok (types.intValue result)) := by
  have hrow : (⟨[.int, .int], .int⟩, .intArithmetic operation types) ∈
      arithmeticFittings types operation := by
    simp [arithmeticFittings, arithmeticTable]
  have hpicks : catalog.Picks id ([a, b].map Value.type)
      (types.entry (⟨[.int, .int], .int⟩, .intArithmetic operation types)) := by
    refine hprovides.picks_lower .int rfl ?_ hrow rfl ?_ ha.type hb.type htells
    · exact (by decide : (arithmeticTable.map Row.arguments).Nodup)
    · exact (by decide : ∀ other ∈ arithmeticTable.map Row.arguments,
        other ≠ [.int, .int] → other = [.real, .real])
  refine answers_of_run hpicks (run_intArithmetic operation types ha.reads hb.reads)
    fun value hvalue => ?_
  cases hresult : Numbers.onIntegers operation m n with
  | error error =>
      rw [hresult] at hvalue
      cases hvalue
  | ok result =>
      rw [hresult] at hvalue
      obtain rfl := Except.ok.inj hvalue
      exact Hierarchy.isA_self _ types.int

/-- And otherwise both entries are nearest. -/
theorem arithmetic_ambiguous
    (hnot : ¬ catalog.hierarchy.Tells catalog.metric types.int a.type b.type) :
    ∃ name, Answers custom catalog id [a, b] (.error (.ambiguous name [a.type, b.type]
      [types.handles [.int, .int], types.handles [.real, .real]])) := by
  obtain ⟨hints, hreals⟩ :=
    hprovides.placed.accepts_parents hprovides.coherent .int rfl ha.type hb.type
  obtain ⟨hle, hlt⟩ := hprovides.placed.totalDistance_parents hprovides.coherent .int
    rfl ha.type hb.type catalog.metric
  have htie := hle.antisymm (Nat.le_of_not_lt fun hnearer => hnot (hlt.mp hnearer))
  exact hprovides.computes_ambiguous [a, b] hints hreals htie

end Arithmetic

/-! ## The laws -/

/-- What `divide`, `mod` and `pow` answer on two integers. -/
structure IntegerLaws (custom : Custom → List Value → Program (Body Custom) Value)
    (catalog : Catalog (Body Custom)) (library : Library) (a b : Value) (m n : ℤ) :
    Prop where
  by_zero : n = 0 →
    Answers custom catalog library.numbers.divide [a, b] (.error .divisionByZero) ∧
      Answers custom catalog library.numbers.modulo [a, b] (.error .divisionByZero)
  division : n ≠ 0 → ∃ quotient remainder,
    Answers custom catalog library.numbers.divide [a, b]
        (.ok (library.types.intValue quotient)) ∧
      Answers custom catalog library.numbers.modulo [a, b]
        (.ok (library.types.intValue remainder)) ∧
      Numbers.Divided m n quotient remainder
  power : 0 ≤ n → n < 2 ^ 32 →
    Answers custom catalog library.numbers.pow [a, b]
      (.ok (library.types.intValue (m ^ n.toNat)))
  power_zero : n = 0 →
    Answers custom catalog library.numbers.pow [a, b] (.ok (library.types.intValue 1))
  power_add : ∀ c sum k, IsInteger catalog library.types c k →
    IsInteger catalog library.types sum (n + k) →
    catalog.hierarchy.Tells catalog.metric library.types.int a.type c.type →
    catalog.hierarchy.Tells catalog.metric library.types.int a.type sum.type →
    0 ≤ n → 0 ≤ k → n + k < 2 ^ 32 → ∃ x y,
      Answers custom catalog library.numbers.pow [a, b]
          (.ok (library.types.intValue x)) ∧
        Answers custom catalog library.numbers.pow [a, c]
          (.ok (library.types.intValue y)) ∧
        Answers custom catalog library.numbers.pow [a, sum]
          (.ok (library.types.intValue (x * y)))
  power_refused : ¬ (0 ≤ n ∧ n < 2 ^ 32) → ∃ fault,
    Answers custom catalog library.numbers.pow [a, b] (.error (.argument fault))

/-- Wherever the base library has been installed and `divide`, `mod` and `pow` have got
no further entries, they obey the laws of integers, for all values that are tagged as
integers.  Only that all three fail under the symmetric metric, when both types are too
far below `isInt`. -/
theorem integers_divide_exactly {library : Library} {registry : Registry (Body Custom)}
    (hinstalled : library.InstalledIn
      [library.numbers.divide, library.numbers.modulo, library.numbers.pow] registry)
    (custom : Custom → List Value → Program (Body Custom) Value)
    (ha : IsInteger registry.toCatalog library.types a m)
    (hb : IsInteger registry.toCatalog library.types b n) :
    (registry.hierarchy.Tells registry.metric library.types.int a.type b.type →
      IntegerLaws custom registry.toCatalog library a b m n) ∧
    (¬ registry.hierarchy.Tells registry.metric library.types.int a.type b.type →
      ∀ id ∈ [library.numbers.divide, library.numbers.modulo, library.numbers.pow],
        ∃ name, Answers custom registry.toCatalog id [a, b] (.error (.ambiguous name
          [a.type, b.type] [[library.types.int, library.types.int],
            [library.types.real, library.types.real]]))) := by
  have hfitting := library.numberFittings_subset
  have hdivide : registry.Provides library.types library.numbers.divide
      (arithmeticFittings library.types .divide) :=
    hinstalled.provides (by simp) (hfitting (by simp [numberFittings]))
  have hmodulo : registry.Provides library.types library.numbers.modulo
      (arithmeticFittings library.types .modulo) :=
    hinstalled.provides (by simp) (hfitting (by simp [numberFittings]))
  have hpow : registry.Provides library.types library.numbers.pow
      (arithmeticFittings library.types .pow) :=
    hinstalled.provides (by simp) (hfitting (by simp [numberFittings]))
  have hpower : ∀ {b : Value} {n : ℤ}, IsInteger registry.toCatalog library.types b n →
      registry.hierarchy.Tells registry.metric library.types.int a.type b.type →
      0 ≤ n → n < 2 ^ 32 → Answers custom registry.toCatalog library.numbers.pow [a, b]
        (.ok (library.types.intValue (m ^ n.toNat))) := by
    intro b n hb htells hnonneg hlt
    have hanswer : Answers custom registry.toCatalog library.numbers.pow [a, b] _ :=
      answers_arithmetic hpow ha hb htells
    rw [Numbers.onIntegers, Numbers.intPow_of_lt m hnonneg hlt] at hanswer
    exact hanswer
  refine ⟨fun htells => ⟨?by_zero, ?division, hpower hb htells, ?power_zero, ?power_add,
    ?power_refused⟩, fun hnot id hid => ?ambiguous⟩
  case by_zero =>
    rintro rfl
    exact ⟨answers_arithmetic hdivide ha hb htells,
      answers_arithmetic hmodulo ha hb htells⟩
  case division =>
    intro hzero
    have hquotient : Answers custom registry.toCatalog library.numbers.divide [a, b] _ :=
      answers_arithmetic hdivide ha hb htells
    have hremainder : Answers custom registry.toCatalog library.numbers.modulo [a, b] _ :=
      answers_arithmetic hmodulo ha hb htells
    rw [Numbers.onIntegers, Numbers.intDivide, if_neg hzero] at hquotient
    rw [Numbers.onIntegers, Numbers.intModulo, if_neg hzero] at hremainder
    exact ⟨m.fdiv n, m.tmod n, hquotient, hremainder, Numbers.divided m hzero⟩
  case power_zero =>
    rintro rfl
    have hone := hpower hb htells le_rfl (by decide)
    rw [Int.toNat_zero, pow_zero] at hone
    exact hone
  case power_add =>
    intro c sum k hc hsum htells_c htells_sum hn hk hlt
    have hadd : m ^ (n + k).toNat = m ^ n.toNat * m ^ k.toNat := by
      rw [Int.toNat_add hn hk, pow_add]
    refine ⟨m ^ n.toNat, m ^ k.toNat, hpower hb htells hn (by omega),
      hpower hc htells_c hk (by omega), ?_⟩
    rw [← hadd]
    exact hpower hsum htells_sum (by omega) hlt
  case power_refused =>
    intro hout
    obtain ⟨fault, hfault⟩ := Numbers.exists_intPow_eq_error m hout
    have hanswer : Answers custom registry.toCatalog library.numbers.pow [a, b] _ :=
      answers_arithmetic hpow ha hb htells
    rw [Numbers.onIntegers, hfault] at hanswer
    exact ⟨fault, hanswer⟩
  case ambiguous =>
    simp only [List.mem_cons, List.not_mem_nil, or_false] at hid
    rcases hid with rfl | rfl | rfl
    · exact arithmetic_ambiguous hdivide ha hb hnot
    · exact arithmetic_ambiguous hmodulo ha hb hnot
    · exact arithmetic_ambiguous hpow ha hb hnot

/-- Minus seven by a real two; and an integer a hundred links below `isInt`, which
cannot be divided by itself. -/
theorem integers_divide_exactly_deepInt :
    ∃ (library : Library) (registry : Registry (Body Empty)) (type : Predicate),
      library.DeepBelow .int registry type 100 ∧
      Answers nofun registry.toCatalog library.numbers.divide
        [library.types.intValue (-7),
          .tagged (.real (Float.ofBits 0x4000000000000000)) library.types.int]
        (.ok (library.types.intValue (-4))) ∧
      ∃ name, Answers nofun registry.toCatalog library.numbers.divide
        [.tagged (.int 7) type, .tagged (.int 7) type] (.error (.ambiguous name
          [type, type] [[library.types.int, library.types.int],
            [library.types.real, library.types.real]])) := by
  obtain ⟨library, registry, type, hdeep⟩ := exists_deepBelow Empty .int 100
  have hinstalled := hdeep.installed
    [library.numbers.divide, library.numbers.modulo, library.numbers.pow]
  refine ⟨library, registry, type, hdeep, ?_, ?_⟩
  · have hint := hinstalled.isA_handle .int .int
    have htwo : Payload.int? (.real (Float.ofBits 0x4000000000000000)) = some 2 := by
      decide +kernel
    obtain ⟨hlaws, -⟩ := integers_divide_exactly hinstalled nofun
      (a := library.types.intValue (-7))
      (b := .tagged (.real (Float.ofBits 0x4000000000000000)) library.types.int)
      ⟨hint, rfl⟩ ⟨hint, htwo⟩
    have hnear : registry.hierarchy.Tells registry.metric library.types.int
        library.types.int library.types.int := fun _ =>
      Or.inl ((Hierarchy.typeDistance_self _ rfl).trans_lt (by decide))
    obtain ⟨quotient, remainder, hquotient, -, hdivided⟩ :=
      (hlaws hnear).division (by decide)
    have hfloor : ⌊((-7 : ℤ) : ℚ) / (2 : ℤ)⌋ = -4 := by
      rw [Int.floor_eq_iff]
      norm_num
    rw [hdivided.floor, hfloor] at hquotient
    exact hquotient
  · obtain ⟨-, hambiguous⟩ := integers_divide_exactly hinstalled nofun
      (a := .tagged (.int 7) type) (b := .tagged (.int 7) type)
      ⟨hdeep.below, rfl⟩ ⟨hdeep.below, rfl⟩
    refine hambiguous (fun htells => ?_) library.numbers.divide (by simp)
    have hnear := htells hdeep.metric
    rw [or_self_iff] at hnear
    exact absurd (hdeep.distance.symm.trans_lt hnear) (by decide)

end PredicateDispatch.Library
