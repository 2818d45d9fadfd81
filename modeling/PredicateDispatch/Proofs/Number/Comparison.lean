import PredicateDispatch.Library.Numbers
import PredicateDispatch.Proofs.Number.Rounding
import PredicateDispatch.Value.Equality

/-!
# Comparing integers and reals

Integers are compared exactly, and as soon as a real takes part, by the places of
doubles.  Rounding keeps the order of integers, so that both ways fit together, but
for one case: a real may be the nearest double of two different integers, and then
it equals both.
-/

namespace PredicateDispatch

/-- An integer, or a real other than NaN. -/
def Payload.IsNumber : Payload → Prop
  | .int _ => True
  | .real x => x.isNaN = false
  | _ => False

/-- The place of the double that stands for the number. -/
def Payload.place : Payload → ℤ
  | .int n => Binary64.place (Binary64.ofInt n)
  | .real x => Binary64.place x
  | _ => 0

namespace Numbers

/-- The one number is found less than the other one, or equal to it. -/
def AtMost (a b : Payload) : Prop :=
  ∃ order, compare a b = .ok (some order) ∧ order ≠ .gt

/-- The numbers are found equal. -/
def Equal (a b : Payload) : Prop :=
  compare a b = .ok (some .eq)

/-- The real is the nearest double of both integers, which are different. -/
def Merges (real left right : Payload) : Prop :=
  ∃ x m n, real = .real x ∧ left = .int m ∧ right = .int n ∧ m ≠ n ∧
    Binary64.order (Binary64.ofInt m) x = some .eq ∧
    Binary64.order (Binary64.ofInt n) x = some .eq

section Payloads

variable {a b : Payload} {x y : Float} (ha : a.real? = some x) (hb : b.real? = some y)
include ha hb

/-- Two numbers are integers, or their doubles are compared, also for equality of
payloads. -/
theorem integers_or_doubles :
    (∃ m n, a = .int m ∧ b = .int n) ∨
      (compare a b = .ok (Binary64.order x y) ∧
        compare b a = .ok (Binary64.order y x) ∧
        (a == b) = (Binary64.order x y == some .eq)) := by
  cases a with
  | int m =>
      cases ha
      cases b with
      | int n => exact Or.inl ⟨m, n, rfl, rfl⟩
      | real y =>
          cases hb
          exact Or.inr ⟨rfl, rfl, rfl⟩
      | _ => cases hb
  | real x =>
      cases ha
      cases b with
      | int n =>
          cases hb
          exact Or.inr ⟨rfl, rfl, Binary64.order_eq_comm _ _⟩
      | real y =>
          cases hb
          exact Or.inr ⟨rfl, rfl, rfl⟩
      | _ => cases hb
  | _ => cases ha

/-- Numbers, NaN among them, are equal payloads exactly if they are found equal, and
in no order exactly if NaN takes part. -/
theorem exists_compare_eq_of_real? :
    ∃ order, compare a b = .ok order ∧
      compare b a = .ok (order.map Ordering.swap) ∧
      (a == b) = (order == some .eq) ∧
      (order = none ↔ x.isNaN = true ∨ y.isNaN = true) := by
  rcases integers_or_doubles ha hb with ⟨m, n, rfl, rfl⟩ | ⟨hab, hba, hequal⟩
  · cases ha
    cases hb
    refine ⟨some (Ord.compare m n), rfl,
      congrArg (fun order => Except.ok (some order)) Std.OrientedOrd.eq_swap, ?_, ?_⟩
    · change (m == n) = _
      rw [Bool.eq_iff_iff, beq_iff_eq, beq_iff_eq, Option.some_inj, compare_eq_iff_eq]
    · rw [Binary64.isNaN_ofInt, Binary64.isNaN_ofInt]
      exact iff_of_false nofun (or_self_iff.not.mpr Bool.false_ne_true)
  · refine ⟨_, hab, by rw [hba, Binary64.order_swap x y], hequal, fun hnone => ?_,
      Binary64.order_eq_none⟩
    by_contra hnumbers
    simp only [not_or, Bool.not_eq_true] at hnumbers
    rw [Binary64.order_eq hnumbers.1 hnumbers.2] at hnone
    cases hnone

end Payloads

section Pair

variable {a b : Payload} (ha : a.IsNumber) (hb : b.IsNumber)
include ha

theorem exists_real?_eq :
    ∃ x, a.real? = some x ∧ x.isNaN = false ∧ a.place = Binary64.place x := by
  cases a with
  | int m => exact ⟨_, rfl, Binary64.isNaN_ofInt m, rfl⟩
  | real x => exact ⟨x, rfl, ha, rfl⟩
  | _ => cases ha

include hb

theorem integers_or_compare_eq :
    (∃ m n, a = .int m ∧ b = .int n) ∨
      compare a b = .ok (some (Ord.compare a.place b.place)) := by
  obtain ⟨x, hx, hnumber, hplace⟩ := exists_real?_eq ha
  obtain ⟨y, hy, hnumber', hplace'⟩ := exists_real?_eq hb
  rw [hplace, hplace', ← Binary64.order_eq hnumber hnumber']
  exact (integers_or_doubles hx hy).imp_right And.left

theorem exists_compare_eq :
    ∃ order, compare a b = .ok (some order) ∧ compare b a = .ok (some order.swap) := by
  obtain ⟨x, hx, hnumber, -⟩ := exists_real?_eq ha
  obtain ⟨y, hy, hnumber', -⟩ := exists_real?_eq hb
  obtain ⟨order, hab, hba, -, hunordered⟩ := exists_compare_eq_of_real? hx hy
  rw [hnumber, hnumber', or_self_iff] at hunordered
  cases order with
  | none => exact absurd (hunordered.mp rfl) Bool.false_ne_true
  | some order => exact ⟨order, hab, hba⟩

/-- Rounding keeps the order, so that places tell at least how numbers compare. -/
theorem place_le_of_atMost (hle : AtMost a b) : a.place ≤ b.place := by
  obtain ⟨order, hcompare, hnot⟩ := hle
  rcases integers_or_compare_eq ha hb with ⟨m, n, rfl, rfl⟩ | hplaces
  · cases hcompare
    exact Binary64.place_ofInt_mono
      (Std.isLE_compare.mp (Ordering.isLE_iff_ne_gt.mpr hnot))
  · rw [hplaces] at hcompare
    cases hcompare
    exact compare_le_iff_le.mp hnot

theorem Equal.place_eq (hequal : Equal a b) : a.place = b.place := by
  rcases integers_or_compare_eq ha hb with ⟨m, n, rfl, rfl⟩ | hplaces
  · exact congrArg (fun n => Binary64.place (Binary64.ofInt n))
      (compare_eq_iff_eq.mp (Option.some.inj (Except.ok.inj hequal)))
  · exact compare_eq_iff_eq.mp
      (Option.some.inj (Except.ok.inj (hplaces.symm.trans hequal)))

end Pair

section Integers

variable {m n : ℤ}

theorem atMost_int_iff : AtMost (.int m) (.int n) ↔ m ≤ n := by
  rw [← compare_le_iff_le]
  constructor
  · rintro ⟨order, hcompare, hnot⟩
    cases hcompare
    exact hnot
  · exact fun hnot => ⟨_, rfl, hnot⟩

theorem equal_int_iff : Equal (.int m) (.int n) ↔ m = n := by
  rw [← compare_eq_iff_eq]
  exact ⟨fun hequal => Option.some.inj (Except.ok.inj hequal),
    fun heq => congrArg (fun order => Except.ok (some order)) heq⟩

theorem merges_of_places {x : Float} (hnumber : x.isNaN = false) (hne : m ≠ n)
    (hleft : (Payload.int m).place = (Payload.real x).place)
    (hright : (Payload.int n).place = (Payload.real x).place) :
    Merges (.real x) (.int m) (.int n) := by
  have hequal : ∀ k, (Payload.int k).place = (Payload.real x).place →
      Binary64.order (Binary64.ofInt k) x = some .eq := fun k hplace =>
    (Binary64.order_eq (Binary64.isNaN_ofInt k) hnumber).trans
      (congrArg some (compare_eq_iff_eq.mpr hplace))
  exact ⟨x, m, n, rfl, rfl, rfl, hne, hequal m hleft, hequal n hright⟩

end Integers

section Triple

variable {a b c : Payload} (ha : a.IsNumber) (hb : b.IsNumber) (hc : c.IsNumber)
include ha hb hc

theorem atMost_trans (hmerges : ¬ Merges b a c) (hab : AtMost a b) (hbc : AtMost b c) :
    AtMost a c := by
  have hleft := place_le_of_atMost ha hb hab
  have hright := place_le_of_atMost hb hc hbc
  rcases integers_or_compare_eq ha hc with ⟨m, n, rfl, rfl⟩ | hplaces
  · cases b with
    | int k =>
        exact atMost_int_iff.mpr ((atMost_int_iff.mp hab).trans (atMost_int_iff.mp hbc))
    | real x =>
        by_contra hnot
        have hlt : n < m := lt_of_not_ge fun hle => hnot (atMost_int_iff.mpr hle)
        have hback : (Payload.int n).place ≤ (Payload.int m).place :=
          Binary64.place_ofInt_mono hlt.le
        exact hmerges (merges_of_places hb hlt.ne'
          (le_antisymm hleft (hright.trans hback))
          (le_antisymm (hback.trans hleft) hright))
    | _ => cases hb
  · exact ⟨_, hplaces, compare_le_iff_le.mpr (hleft.trans hright)⟩

theorem equal_trans (hmerges : ¬ Merges b a c) (hab : Equal a b) (hbc : Equal b c) :
    Equal a c := by
  have hleft := hab.place_eq ha hb
  have hright := hbc.place_eq hb hc
  rcases integers_or_compare_eq ha hc with ⟨m, n, rfl, rfl⟩ | hplaces
  · cases b with
    | int k =>
        exact equal_int_iff.mpr ((equal_int_iff.mp hab).trans (equal_int_iff.mp hbc))
    | real x =>
        by_contra hnot
        exact hmerges (merges_of_places hb (fun heq => hnot (equal_int_iff.mpr heq))
          hleft hright.symm)
    | _ => cases hb
  · exact hplaces.trans
      (congrArg (fun order => Except.ok (some order))
        (compare_eq_iff_eq.mpr (hleft.trans hright)))

end Triple

/-- The integers equal the real, and not each other. -/
theorem Merges.not_transitive {a b c : Payload} (hmerges : Merges b a c) :
    Equal a b ∧ Equal b c ∧ ¬ Equal a c ∧ ¬ (AtMost a c ∧ AtMost c a) := by
  obtain ⟨x, m, n, rfl, rfl, rfl, hne, hm, hn⟩ := hmerges
  refine ⟨congrArg Except.ok hm, congrArg Except.ok ?_, fun hequal => ?_,
    fun ⟨hle, hge⟩ => ?_⟩
  · rw [Binary64.order_swap, hn]
    rfl
  · exact hne (equal_int_iff.mp hequal)
  · exact hne (le_antisymm (atMost_int_iff.mp hle) (atMost_int_iff.mp hge))

/-- Any two numbers are in one order or the other.  The order of mixed numbers is
transitive, as is their equality, unless the number in the middle is a real that is
the nearest double of two different integers around it. -/
theorem comparison_laws {a b c : Payload} (ha : a.IsNumber) (hb : b.IsNumber)
    (hc : c.IsNumber) :
    (∃ order, compare a b = .ok (some order) ∧
      compare b a = .ok (some order.swap)) ∧
    (¬ Merges b a c → (AtMost a b → AtMost b c → AtMost a c) ∧
      (Equal a b → Equal b c → Equal a c)) ∧
    (Merges b a c →
      Equal a b ∧ Equal b c ∧ ¬ Equal a c ∧ ¬ (AtMost a c ∧ AtMost c a)) :=
  ⟨exists_compare_eq ha hb,
    fun hmerges => ⟨atMost_trans ha hb hc hmerges, equal_trans ha hb hc hmerges⟩,
    Merges.not_transitive⟩

/-- The double `2 ^ 53`, from where on not every integer is a double. -/
def lastDense : Float :=
  Float.ofBits 0x4340000000000000

/-- The next one, `2 ^ 53 + 2`. -/
def firstSparse : Float :=
  Float.ofBits 0x4340000000000001

theorem comparison_laws_sparseIntegers :
    (AtMost (.int (2 ^ 53 + 1)) (.real firstSparse) ∧
      AtMost (.real firstSparse) (.int (2 ^ 53 + 3)) ∧
      AtMost (.int (2 ^ 53 + 1)) (.int (2 ^ 53 + 3))) ∧
    Merges (.real lastDense) (.int (2 ^ 53 + 1)) (.int (2 ^ 53)) ∧
    ¬ Equal (.int (2 ^ 53 + 1)) (.int (2 ^ 53)) := by
  have hlower : AtMost (.int (2 ^ 53 + 1)) (.real firstSparse) :=
    ⟨.lt, congrArg Except.ok (by decide +kernel), by decide⟩
  have hupper : AtMost (.real firstSparse) (.int (2 ^ 53 + 3)) :=
    ⟨.lt, congrArg Except.ok (by decide +kernel), by decide⟩
  have hapart :
      ¬ Merges (.real firstSparse) (.int (2 ^ 53 + 1)) (.int (2 ^ 53 + 3)) := by
    rintro ⟨x, m, n, hreal, hleft, -, -, hequal, -⟩
    cases hreal
    cases hleft
    revert hequal
    decide +kernel
  have hmerges : Merges (.real lastDense) (.int (2 ^ 53 + 1)) (.int (2 ^ 53)) :=
    ⟨lastDense, _, _, rfl, rfl, rfl, by decide, by decide +kernel, by decide +kernel⟩
  have hinteger : ∀ n, (Payload.int n).IsNumber := fun _ => trivial
  have hreal : ∀ x : Float, x.isNaN = false → (Payload.real x).IsNumber :=
    fun _ hnumber => hnumber
  obtain ⟨-, htransitive, -⟩ :=
    comparison_laws (hinteger (2 ^ 53 + 1)) (hreal firstSparse (by decide +kernel))
      (hinteger (2 ^ 53 + 3))
  obtain ⟨-, -, hapart'⟩ :=
    comparison_laws (hinteger (2 ^ 53 + 1)) (hreal lastDense (by decide +kernel))
      (hinteger (2 ^ 53))
  exact ⟨⟨hlower, hupper, (htransitive hapart).1 hlower hupper⟩, hmerges,
    (hapart' hmerges).2.2.1⟩

/-- Equality and order are not transitive at `2 ^ 53 + 1`, the double `2 ^ 53` and the
integer `2 ^ 53`. -/
theorem mixed_comparison_not_transitive :
    (Equal (.int (2 ^ 53 + 1)) (.real lastDense) ∧
      Equal (.real lastDense) (.int (2 ^ 53)) ∧
      ¬ Equal (.int (2 ^ 53 + 1)) (.int (2 ^ 53))) ∧
    AtMost (.int (2 ^ 53 + 1)) (.real lastDense) ∧
    AtMost (.real lastDense) (.int (2 ^ 53)) ∧
    ¬ AtMost (.int (2 ^ 53 + 1)) (.int (2 ^ 53)) := by
  have hleft : Equal (.int (2 ^ 53 + 1)) (.real lastDense) :=
    congrArg Except.ok (by decide +kernel)
  have hright : Equal (.real lastDense) (.int (2 ^ 53)) :=
    congrArg Except.ok (by decide +kernel)
  refine ⟨⟨hleft, hright, ?_⟩, ⟨.eq, hleft, by decide⟩, ⟨.eq, hright, by decide⟩, ?_⟩
  · rw [equal_int_iff]
    decide
  · rw [atMost_int_iff]
    decide

end Numbers

end PredicateDispatch
