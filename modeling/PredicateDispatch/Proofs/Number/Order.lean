import PredicateDispatch.Number.Binary64
import Mathlib

/-!
# The order of doubles

All doubles but NaN stand on a line, the two zeros at the same place.  The place of
a double is its number on this line, counted from zero, so that the order of doubles
is that of integers.
-/

namespace PredicateDispatch.Binary64

open Float.Model Float.Model.UnpackedFloat

/-! ## Places -/

/-- How many doubles there are from zero to `mantissa * 2 ^ exponent`.  There are as
many of one exponent as a mantissa without its leading bit has values. -/
def magnitude (mantissa : ℕ) (exponent : ℤ) : ℤ :=
  (exponent + 1074) * 2 ^ 52 + mantissa

/-- The infinity comes right after the greatest double. -/
def infiniteMagnitude : ℤ :=
  2047 * 2 ^ 52

def placeOf : UnpackedFloat → ℤ
  | .infinity sign => sign.apply infiniteMagnitude
  | .notANumber => 0
  | .zero _ => 0
  | .finite sign mantissa exponent _ => sign.apply (magnitude mantissa exponent)

/-- The place of a double on the line; NaN has none and is put at zero. -/
def place (x : Float) : ℤ :=
  placeOf x.toModel.unpack

/-- A finite double uses all bits of its mantissa, unless it has the least
exponent. -/
structure Fits (mantissa : ℕ) (exponent : ℤ) : Prop where
  mantissa_lt : mantissa < 2 ^ 53
  least_le : -1074 ≤ exponent
  le_greatest : exponent ≤ 971
  full : exponent = -1074 ∨ 2 ^ 52 ≤ mantissa

namespace Fits

variable {mantissa mantissa' : ℕ} {exponent exponent' : ℤ}
  (hfits : Fits mantissa exponent) (hfits' : Fits mantissa' exponent')
include hfits

theorem magnitude_pos (hpos : 0 < mantissa) : 0 < magnitude mantissa exponent := by
  have hleast := hfits.least_le
  rw [magnitude]
  omega

theorem magnitude_lt : magnitude mantissa exponent < infiniteMagnitude := by
  have hgreatest := hfits.le_greatest
  have hmantissa := hfits.mantissa_lt
  rw [magnitude, infiniteMagnitude]
  omega

include hfits'

/-- A greater exponent puts all mantissas behind those of a smaller one. -/
theorem magnitude_lt_of_exponent_lt (hlt : exponent < exponent') :
    magnitude mantissa exponent < magnitude mantissa' exponent' := by
  have hleast := hfits.least_le
  have hmantissa := hfits.mantissa_lt
  have hfull : 2 ^ 52 ≤ mantissa' := hfits'.full.resolve_left (by omega)
  rw [magnitude, magnitude]
  omega

theorem compare_magnitude :
    (compare exponent exponent').then (compare mantissa mantissa') =
      compare (magnitude mantissa exponent) (magnitude mantissa' exponent') := by
  rcases lt_trichotomy exponent exponent' with hlt | rfl | hgt
  · rw [compare_lt_iff_lt.mpr hlt,
      compare_lt_iff_lt.mpr (hfits.magnitude_lt_of_exponent_lt hfits' hlt)]
    rfl
  · have hmagnitude : ∀ {low high : ℕ}, low < high →
        magnitude low exponent < magnitude high exponent := fun hlt =>
      Int.add_lt_add_left (Int.ofNat_lt.mpr hlt) _
    rw [compare_eq_iff_eq.mpr rfl]
    rcases lt_trichotomy mantissa mantissa' with hlt | rfl | hgt
    · rw [compare_lt_iff_lt.mpr hlt, compare_lt_iff_lt.mpr (hmagnitude hlt)]
      rfl
    · rw [compare_eq_iff_eq.mpr rfl, compare_eq_iff_eq.mpr rfl]
      rfl
    · rw [compare_gt_iff_gt.mpr hgt, compare_gt_iff_gt.mpr (hmagnitude hgt)]
      rfl
  · rw [compare_gt_iff_gt.mpr hgt,
      compare_gt_iff_gt.mpr (hfits'.magnitude_lt_of_exponent_lt hfits hgt)]
    rfl

end Fits

/-! ## Unpacked doubles -/

/-- What doubles are unpacked to. -/
def Canonical (unpacked : UnpackedFloat) : Prop :=
  ∀ sign mantissa exponent hpos, unpacked = .finite sign mantissa exponent hpos →
    Fits mantissa exponent

theorem canonical_unpack (bits : BitVec Format.binary64.numBits) :
    Canonical (UnpackedFloat.unpack .binary64 bits) := by
  have hbias : (Format.binary64.exponentBias : ℤ) = 1023 := rfl
  fun_cases UnpackedFloat.unpack .binary64 bits with
  | case1 | case2 | case3 =>
      intro _ _ _ _ hunpack
      cases hunpack
  | case4 mantissaBits exponentBits biased signBits sign hfinite hleast hzero =>
      intro _ _ _ _ hunpack
      cases hunpack
      have hmantissa : mantissaBits.toNat < 2 ^ 52 := mantissaBits.isLt
      have hexponent : exponentBits.toNat = 0 := congrArg BitVec.toNat hleast
      have hbiased : biased = (exponentBits.toNat : ℤ) - (1023 + 52) := rfl
      exact ⟨by omega, by omega, by omega, Or.inl (by omega)⟩
  | case5 mantissaBits exponentBits biased signBits sign hfinite hnormal =>
      intro _ _ _ _ hunpack
      cases hunpack
      have hmantissa : mantissaBits.toNat < 2 ^ 52 := mantissaBits.isLt
      have hexponent : exponentBits.toNat < 2 ^ 11 := exponentBits.isLt
      have hpositive : exponentBits.toNat ≠ 0 := fun hbits =>
        hnormal (BitVec.eq_of_toNat_eq hbits)
      have hgreatest : exponentBits.toNat ≠ 2047 := fun hbits =>
        hfinite (BitVec.eq_of_toNat_eq hbits)
      have hbiased : biased = (exponentBits.toNat : ℤ) - (1023 + 52) := rfl
      have hleading : (1#1 ++ mantissaBits).toNat = 2 ^ 52 + mantissaBits.toNat := by
        rw [BitVec.toNat_append, ← Nat.shiftLeft_add_eq_or_of_lt hmantissa]
        rfl
      exact ⟨by omega, by omega, by omega, Or.inr (by omega)⟩

theorem compare_neg (m n : ℤ) : compare (-m) (-n) = (compare m n).swap := by
  rcases lt_trichotomy m n with hlt | rfl | hgt
  · rw [compare_lt_iff_lt.mpr hlt, compare_gt_iff_gt.mpr (Int.neg_lt_neg hlt)]
    rfl
  · rw [compare_eq_iff_eq.mpr rfl, compare_eq_iff_eq.mpr rfl]
    rfl
  · rw [compare_gt_iff_gt.mpr hgt, compare_lt_iff_lt.mpr (Int.neg_lt_neg hgt)]
    rfl

/-- Unless both are finite and on the same side of zero, the kinds and signs of two
doubles decide on their order. -/
theorem Canonical.compare_eq {left right : UnpackedFloat} (hleft : Canonical left)
    (hright : Canonical right) (hnumber : left ≠ .notANumber)
    (hnumber' : right ≠ .notANumber) :
    left.compare right = some (compare (placeOf left) (placeOf right)) := by
  have hlt : ∀ {m n : ℤ}, m < n → some Ordering.lt = some (compare m n) :=
    fun hlt => congrArg some (compare_lt_iff_lt.mpr hlt).symm
  have hgt : ∀ {m n : ℤ}, n < m → some Ordering.gt = some (compare m n) :=
    fun hlt => congrArg some (compare_gt_iff_gt.mpr hlt).symm
  have hinfinite : 0 < infiniteMagnitude := by decide
  cases left with
  | notANumber => exact absurd rfl hnumber
  | infinity sign =>
      cases right with
      | notANumber => exact absurd rfl hnumber'
      | infinity sign' => cases sign <;> cases sign' <;> rfl
      | zero => cases sign <;> rfl
      | finite sign' mantissa exponent hpos =>
          have hfits := hright _ _ _ _ rfl
          have hpositive := hfits.magnitude_pos hpos
          have hfinite := hfits.magnitude_lt
          cases sign <;> cases sign' <;> simp only [placeOf, Sign.apply] <;>
            first | exact hlt (by omega) | exact hgt (by omega)
  | zero sign =>
      cases right with
      | notANumber => exact absurd rfl hnumber'
      | infinity sign' => cases sign' <;> rfl
      | zero => rfl
      | finite sign' mantissa exponent hpos =>
          have hpositive := (hright _ _ _ _ rfl).magnitude_pos hpos
          cases sign' <;> simp only [placeOf, Sign.apply] <;>
            first | exact hlt (by omega) | exact hgt (by omega)
  | finite sign mantissa exponent hpos =>
      have hfits := hleft _ _ _ _ rfl
      have hpositive := hfits.magnitude_pos hpos
      cases right with
      | notANumber => exact absurd rfl hnumber'
      | infinity sign' =>
          have hfinite := hfits.magnitude_lt
          cases sign <;> cases sign' <;> simp only [placeOf, Sign.apply] <;>
            first | exact hlt (by omega) | exact hgt (by omega)
      | zero =>
          cases sign <;> simp only [placeOf, Sign.apply] <;>
            first | exact hlt (by omega) | exact hgt (by omega)
      | finite sign' mantissa' exponent' hpos' =>
          have hfits' := hright _ _ _ _ rfl
          have hpositive' := hfits'.magnitude_pos hpos'
          cases sign <;> cases sign' <;> simp only [placeOf, Sign.apply]
          · rw [compare_neg, ← hfits.compare_magnitude hfits']
            rfl
          · exact hlt (by omega)
          · exact hgt (by omega)
          · rw [← hfits.compare_magnitude hfits']
            rfl

/-! ## Doubles -/

variable {x y : Float}

theorem isNaN_iff : x.isNaN = true ↔ x.toModel.unpack = .notANumber := by
  change x.toModel.unpack.isNaN = true ↔ _
  cases x.toModel.unpack <;> simp [UnpackedFloat.isNaN]

/-- NaN is comparable to nothing. -/
theorem order_eq_none (hnan : x.isNaN = true ∨ y.isNaN = true) :
    order x y = none := by
  rw [isNaN_iff, isNaN_iff] at hnan
  rw [order]
  rcases hnan with hx | hy
  · rw [hx]
    rfl
  · rw [hy]
    cases x.toModel.unpack with
    | infinity sign => cases sign <;> rfl
    | _ => rfl

/-- Numbers are in the order of their places. -/
theorem order_eq (hx : x.isNaN = false) (hy : y.isNaN = false) :
    order x y = some (compare (place x) (place y)) := by
  have hnumber : ∀ {z : Float}, z.isNaN = false → z.toModel.unpack ≠ .notANumber :=
    fun hz hnan => Bool.false_ne_true (hz.symm.trans (isNaN_iff.mpr hnan))
  exact (canonical_unpack _).compare_eq (canonical_unpack _) (hnumber hx) (hnumber hy)

theorem order_swap (x y : Float) : order y x = (order x y).map Ordering.swap := by
  by_cases hnan : x.isNaN = true ∨ y.isNaN = true
  · rw [order_eq_none hnan, order_eq_none hnan.symm]
    rfl
  · simp only [not_or, Bool.not_eq_true] at hnan
    rw [order_eq hnan.1 hnan.2, order_eq hnan.2 hnan.1]
    exact congrArg some Std.OrientedOrd.eq_swap

theorem order_eq_comm (x y : Float) :
    (order x y == some .eq) = (order y x == some .eq) := by
  rw [order_swap x y]
  rcases order x y with _ | (_ | _ | _) <;> rfl

theorem order_self_eq_iff : order x x = some .eq ↔ x.isNaN = false := by
  cases hnan : x.isNaN with
  | true => simp [order_eq_none (Or.inl hnan)]
  | false => simp [order_eq hnan hnan]

end PredicateDispatch.Binary64
