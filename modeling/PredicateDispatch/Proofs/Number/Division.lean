import Mathlib.Data.Rat.Floor
import PredicateDispatch.Library.Numbers

/-!
# Floored quotients and truncated remainders

Division of integers rounds down, but its remainder takes the sign of the dividend, so
the two do not belong together: where the signs of dividend and divisor differ, the
quotient is one too small for the remainder.  Powers are exact for the exponents that
are accepted.
-/

namespace PredicateDispatch.Numbers

variable {a b : ℤ}

/-- What the quotient and the remainder have to do with dividend and divisor. -/
structure Divided (a b quotient remainder : ℤ) : Prop where
  floor : quotient = ⌊(a : ℚ) / b⌋
  smaller : |remainder| < |b|
  multiple : b ∣ a - remainder
  sign : remainder = 0 ∨ remainder.sign = a.sign
  sum : remainder = 0 ∨ a.sign = b.sign → a = b * quotient + remainder
  sum_across : ¬ (remainder = 0 ∨ a.sign = b.sign) → a = b * quotient + remainder + b

theorem fdiv_eq_floor (a b : ℤ) : a.fdiv b = ⌊(a : ℚ) / b⌋ := by
  have hnonneg : ∀ (a : ℤ) (n : ℕ), a.fdiv n = ⌊(a : ℚ) / n⌋ := by
    intro a n
    rw [Int.fdiv_eq_ediv_of_nonneg a (Int.natCast_nonneg n),
      Rat.floor_intCast_div_natCast]
  obtain ⟨n, rfl | rfl⟩ := b.eq_nat_or_neg
  · exact hnonneg a n
  · have hsides : ((-a : ℤ) : ℚ) / n = (a : ℚ) / ((-n : ℤ) : ℚ) := by
      push_cast
      rw [neg_div, div_neg]
    rw [← hsides, ← hnonneg, ← Int.neg_fdiv_neg, neg_neg]

theorem abs_tmod_lt (a : ℤ) (hb : b ≠ 0) : |a.tmod b| < |b| := by
  rw [← Int.natCast_natAbs, ← Int.natCast_natAbs, Int.natAbs_tmod, Int.ofNat_lt]
  exact Nat.mod_lt _ (Int.natAbs_pos.mpr hb)

/-- The remainder that belongs to the floored quotient is the truncated one, unless
the signs differ. -/
theorem fmod_eq_tmod_add (a : ℤ) (hb : b ≠ 0) :
    a.fmod b = a.tmod b + if a.tmod b = 0 ∨ a.sign = b.sign then 0 else b := by
  rw [Int.fmod_eq_tmod]
  congr 1
  by_cases hdvd : b ∣ a
  · rw [if_pos hdvd, if_pos (Or.inl (Int.tmod_eq_zero_of_dvd hdvd))]
  · have hrest : a.tmod b ≠ 0 := fun hzero => hdvd (Int.dvd_iff_tmod_eq_zero.mpr hzero)
    have ha : a ≠ 0 := fun hzero => hdvd (hzero ▸ dvd_zero b)
    rw [if_neg hdvd]
    rcases lt_or_gt_of_ne ha with ha | ha <;> rcases lt_or_gt_of_ne hb with hb | hb
    · simp [hrest, Int.sign_eq_neg_one_of_neg, ha, hb, ha.not_ge, hb.not_ge, hb.le]
    · simp [hrest, Int.sign_eq_neg_one_of_neg, Int.sign_eq_one_of_pos, ha, hb, ha.not_ge,
        hb.le]
    · simp [hrest, Int.sign_eq_neg_one_of_neg, Int.sign_eq_one_of_pos, ha, hb, ha.le,
        hb.not_ge]
    · simp [Int.sign_eq_one_of_pos, ha, hb, ha.le, hb.le]

theorem divided (a : ℤ) (hb : b ≠ 0) : Divided a b (a.fdiv b) (a.tmod b) where
  floor := fdiv_eq_floor a b
  smaller := abs_tmod_lt a hb
  multiple := Int.dvd_self_sub_tmod
  sign := by
    by_cases hdvd : b ∣ a
    · exact Or.inl (Int.tmod_eq_zero_of_dvd hdvd)
    · exact Or.inr ((Int.sign_tmod a b).trans (if_neg hdvd))
  sum hsame := by
    have hsum := a.mul_fdiv_add_fmod b
    rw [fmod_eq_tmod_add a hb, if_pos hsame, add_zero] at hsum
    exact hsum.symm
  sum_across hacross := by
    have hsum := a.mul_fdiv_add_fmod b
    rw [fmod_eq_tmod_add a hb, if_neg hacross, ← add_assoc] at hsum
    exact hsum.symm

/-! ## Powers -/

theorem intPow_of_lt (a : ℤ) (hnonneg : 0 ≤ b) (hlt : b < 2 ^ 32) :
    intPow a b = .ok (a ^ b.toNat) := by
  have hsmall : ¬ 0x100000000 ≤ b := hlt.not_ge
  rw [intPow, if_neg hnonneg.not_gt, if_neg hsmall]
  rfl

theorem exists_intPow_eq_error (a : ℤ) (hout : ¬ (0 ≤ b ∧ b < 2 ^ 32)) :
    ∃ fault, intPow a b = .error (.argument fault) := by
  rw [intPow]
  by_cases hneg : b < 0
  · exact ⟨_, if_pos hneg⟩
  · have hhuge : 0x100000000 ≤ b := by omega
    rw [if_neg hneg, if_pos hhuge]
    exact ⟨_, rfl⟩

end PredicateDispatch.Numbers
