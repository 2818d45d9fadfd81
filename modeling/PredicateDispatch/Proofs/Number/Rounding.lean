import PredicateDispatch.Proofs.Number.Order

/-!
# The nearest doubles of integers

An integer with more bits than a mantissa is shifted to the right, and the bits that
are lost decide whether the mantissa goes up by one.  A mantissa that overflows then
is the least one of the next exponent, so that the place of the double does not
show the difference, and a greater integer never gets a lower place.
-/

namespace PredicateDispatch.Binary64

open Float.Model Float.Model.UnpackedFloat

/-! ## Rounding -/

/-- `n / 2 ^ k`, rounded to the nearest integer and a half to the even one. -/
def roundEven (n k : ℕ) : ℕ :=
  if 2 * (n % 2 ^ k) < 2 ^ k then n / 2 ^ k
  else if 2 * (n % 2 ^ k) = 2 ^ k then n / 2 ^ k + n / 2 ^ k % 2
  else n / 2 ^ k + 1

theorem le_roundEven (n k : ℕ) : n / 2 ^ k ≤ roundEven n k := by
  rw [roundEven]
  split_ifs <;> omega

theorem roundEven_le (n k : ℕ) : roundEven n k ≤ n / 2 ^ k + 1 := by
  rw [roundEven]
  split_ifs <;> omega

theorem roundEven_mono (k : ℕ) {m n : ℕ} (hle : m ≤ n) :
    roundEven m k ≤ roundEven n k := by
  rcases Nat.lt_or_eq_of_le (Nat.div_le_div_right hle : m / 2 ^ k ≤ n / 2 ^ k) with
    hlt | heq
  · calc roundEven m k ≤ m / 2 ^ k + 1 := roundEven_le m k
      _ ≤ n / 2 ^ k := hlt
      _ ≤ roundEven n k := le_roundEven n k
  · have hrest : m % 2 ^ k ≤ n % 2 ^ k := by
      have hm := Nat.div_add_mod m (2 ^ k)
      have hn := Nat.div_add_mod n (2 ^ k)
      rw [heq] at hm
      omega
    rw [roundEven, roundEven, heq]
    split_ifs <;> omega

/-- The mantissa is what is left of `n` after `k` shifts, and the bits beside it tell
how far what was lost is from a half. -/
structure Shifted (extended : ExtendedMantissa) (n k : ℕ) : Prop where
  mantissa : extended.mantissa = n / 2 ^ k
  roundBit : extended.roundBit = decide (2 ^ k ≤ 2 * (n % 2 ^ k))
  stickyBit : extended.stickyBit =
    decide (2 * (n % 2 ^ k) ≠ 0 ∧ 2 * (n % 2 ^ k) ≠ 2 ^ k)

namespace Shifted

variable {extended : ExtendedMantissa} {n k : ℕ}

theorem exact (n : ℕ) : Shifted (.ofMantissaAndAccuracy n .exact) n 0 where
  mantissa := (Nat.div_one n).symm
  roundBit := by simp [ExtendedMantissa.ofMantissaAndAccuracy, Nat.mod_one]
  stickyBit := by simp [ExtendedMantissa.ofMantissaAndAccuracy, Nat.mod_one]

theorem shiftRightOne (hshifted : Shifted extended n k) :
    Shifted extended.shiftRightOne n (k + 1) := by
  obtain ⟨hmantissa, hround, hsticky⟩ := hshifted
  have hpow : 2 ^ (k + 1) = 2 * 2 ^ k := Nat.pow_succ'
  have hrest : n % 2 ^ (k + 1) = n % 2 ^ k + 2 ^ k * (n / 2 ^ k % 2) := Nat.mod_pow_succ
  have hlt : n % 2 ^ k < 2 ^ k := Nat.mod_lt n (Nat.two_pow_pos k)
  refine ⟨?mantissa, ?roundBit, ?stickyBit⟩
  case mantissa =>
    change extended.mantissa / 2 = _
    rw [hmantissa, Nat.div_div_eq_div_mul, Nat.pow_succ]
  case roundBit =>
    change (extended.mantissa % 2 != 0) = _
    rw [hmantissa, hrest, hpow]
    rcases Nat.mod_two_eq_zero_or_one (n / 2 ^ k) with hbit | hbit
    · simp [hbit]
      omega
    · simp [hbit]
  case stickyBit =>
    change (extended.roundBit || extended.stickyBit) = _
    rw [hround, hsticky, hrest, hpow, ← Bool.decide_or]
    rcases Nat.mod_two_eq_zero_or_one (n / 2 ^ k) with hbit | hbit <;>
      simp only [hbit, decide_eq_decide] <;> omega

theorem shiftRight (n k : ℕ) :
    Shifted (ExtendedMantissa.ofMantissaAndAccuracy n .exact >>> k) n k := by
  induction k with
  | zero => exact exact n
  | succ k ih => exact ih.shiftRightOne

theorem roundedMantissa (hshifted : Shifted extended n k) :
    extended.roundedMantissa = roundEven n k := by
  obtain ⟨mantissa, roundBit, stickyBit⟩ := extended
  obtain ⟨hmantissa, hround, hsticky⟩ := hshifted
  dsimp only at hmantissa hround hsticky
  subst hmantissa
  have hpos := Nat.two_pow_pos k
  rw [ExtendedMantissa.roundedMantissa, roundEven]
  cases roundBit <;> cases stickyBit <;>
    simp only [Bool.true_eq, Bool.false_eq, decide_eq_true_eq,
      decide_eq_false_iff_not] at hround hsticky <;>
    simp only [ExtendedMantissa.accuracy, Accuracy.roundToNearestEven] <;>
    split_ifs <;> omega

end Shifted

/-! ## The mantissa of an integer -/

/-- The bits of `n` that a double keeps, after rounding. -/
def significand (n : ℕ) : ℕ :=
  roundEven (n * 2 ^ (52 - n.log2)) (n.log2 - 52)

section Significand

variable {n : ℕ} (hpos : 0 < n)
include hpos

theorem kept_bits :
    2 ^ 52 ≤ n * 2 ^ (52 - n.log2) / 2 ^ (n.log2 - 52) ∧
      n * 2 ^ (52 - n.log2) / 2 ^ (n.log2 - 52) < 2 ^ 53 := by
  have hle : 2 ^ n.log2 ≤ n := Nat.log2_self_le hpos.ne'
  have hlt : n < 2 ^ (n.log2 + 1) := Nat.lt_log2_self
  have hlow : 52 + (n.log2 - 52) = n.log2 + (52 - n.log2) := by omega
  have hhigh : 53 + (n.log2 - 52) = n.log2 + 1 + (52 - n.log2) := by omega
  rw [Nat.le_div_iff_mul_le (Nat.two_pow_pos _),
    Nat.div_lt_iff_lt_mul (Nat.two_pow_pos _), ← Nat.pow_add, ← Nat.pow_add, hlow, hhigh,
    Nat.pow_add, Nat.pow_add 2 (n.log2 + 1)]
  exact ⟨Nat.mul_le_mul_right _ hle, Nat.mul_lt_mul_of_pos_right hlt (Nat.two_pow_pos _)⟩

theorem le_significand : 2 ^ 52 ≤ significand n :=
  (kept_bits hpos).1.trans (le_roundEven _ _)

theorem significand_le : significand n ≤ 2 ^ 53 :=
  (roundEven_le _ _).trans (kept_bits hpos).2

end Significand

/-! ## The double of an integer -/

theorem targetExponent_eq (mantissa : ℕ) (exponent : ℤ) :
    Format.binary64.targetExponent (totalExponent mantissa exponent) =
      max (mantissa.log2 + exponent - 52) (-1074) := by
  have hbits : (Format.binary64.mantissaBits : ℤ) = 53 := rfl
  have hleast : Format.binary64.minExponent = -1074 := rfl
  rw [Format.targetExponent, totalExponent]
  omega

/-- Shifting a rounded mantissa that overflows goes on to the next exponent and
leaves the place as it is. -/
theorem shift_rounded {mantissa : ℕ} {exponent : ℤ} (hlow : 2 ^ 52 ≤ mantissa)
    (hhigh : mantissa ≤ 2 ^ 53) (hleast : -1074 ≤ exponent) :
    let shifted := shiftToTargetExponent .binary64 mantissa exponent .exact
    shifted.1.mantissa.log2 = 52 ∧ -1074 ≤ shifted.2 ∧
      magnitude shifted.1.mantissa shifted.2 = magnitude mantissa exponent := by
  dsimp only [shiftToTargetExponent, shiftToExponent]
  rw [targetExponent_eq, (Shifted.shiftRight _ _).mantissa, magnitude, magnitude]
  rcases Nat.lt_or_eq_of_le hhigh with hlt | rfl
  · have hlog : mantissa.log2 = 52 := (Nat.log2_eq_iff (by omega)).mpr ⟨hlow, hlt⟩
    have hshift : (max (mantissa.log2 + exponent - 52) (-1074) - exponent).toNat = 0 := by
      omega
    rw [hshift, Nat.pow_zero, Nat.div_one]
    exact ⟨hlog, by omega, by omega⟩
  · have hlog : (2 ^ 53).log2 = 53 := Nat.log2_two_pow
    have hshift : (max (((2 ^ 53).log2 : ℤ) + exponent - 52) (-1074) - exponent).toNat =
        1 := by
      omega
    have hhalf : 2 ^ 53 / 2 ^ 1 = 2 ^ 52 := rfl
    rw [hshift, hhalf]
    exact ⟨Nat.log2_two_pow, by omega, by omega⟩

theorem log2_mul_two_pow {n : ℕ} (hpos : 0 < n) (k : ℕ) :
    (n * 2 ^ k).log2 = n.log2 + k := by
  have hpow := Nat.two_pow_pos k
  refine (Nat.log2_eq_iff (Nat.mul_pos hpos hpow).ne').mpr ⟨?_, ?_⟩
  · rw [Nat.pow_add]
    exact Nat.mul_le_mul_right _ (Nat.log2_self_le hpos.ne')
  · rw [Nat.add_right_comm, Nat.pow_add]
    exact Nat.mul_lt_mul_of_pos_right Nat.lt_log2_self hpow

section Natural

variable {n : ℕ} (hpos : 0 < n)

/-- A short integer first gets a mantissa of full length. -/
theorem decreaseExponent_eq (n : ℕ) :
    decreaseExponent n 0 (Format.binary64.targetExponent (totalExponent n 0)) =
      (n * 2 ^ (52 - n.log2), -((52 - n.log2 : ℕ) : ℤ)) := by
  have hamount : (0 - max ((n.log2 : ℤ) + 0 - 52) (-1074)).toNat = 52 - n.log2 := by
    omega
  rw [decreaseExponent, targetExponent_eq, hamount, Nat.shiftLeft_eq, zero_sub]

include hpos

/-- A long one loses its last bits. -/
theorem shiftToTargetExponent_eq :
    shiftToTargetExponent .binary64 (n * 2 ^ (52 - n.log2))
        (-((52 - n.log2 : ℕ) : ℤ)) .exact =
      (ExtendedMantissa.ofMantissaAndAccuracy (n * 2 ^ (52 - n.log2)) .exact >>>
        (n.log2 - 52), (n.log2 : ℤ) - 52) := by
  have hamount : (max (((n.log2 + (52 - n.log2) : ℕ) : ℤ) +
      -((52 - n.log2 : ℕ) : ℤ) - 52) (-1074) - -((52 - n.log2 : ℕ) : ℤ)).toNat =
        n.log2 - 52 := by
    omega
  rw [shiftToTargetExponent, targetExponent_eq, log2_mul_two_pow hpos, shiftToExponent,
    hamount]
  exact congrArg _ (by omega)

theorem exists_round_eq (sign : Sign) :
    ∃ mantissa exponent hpositive,
      UnpackedFloat.round .binary64 sign n 0 =
        .finite sign mantissa exponent hpositive ∧
      mantissa.log2 = 52 ∧ -1074 ≤ exponent ∧
      magnitude mantissa exponent = magnitude (significand n) (n.log2 - 52) := by
  have hrounded : (ExtendedMantissa.ofMantissaAndAccuracy (n * 2 ^ (52 - n.log2))
      .exact >>> (n.log2 - 52)).roundedMantissa = significand n :=
    (Shifted.shiftRight _ _).roundedMantissa
  have hfinal := shift_rounded (le_significand hpos) (significand_le hpos)
    (by omega : -1074 ≤ (n.log2 : ℤ) - 52)
  rw [UnpackedFloat.round, decreaseExponent_eq]
  dsimp only
  rw [roundWithAccuracy, shiftToTargetExponent_eq hpos]
  dsimp only at hfinal ⊢
  rw [hrounded]
  obtain ⟨hfull, hleast, hplace⟩ := hfinal
  rw [dif_neg (fun hzero => by rw [hzero] at hfull; cases hfull)]
  exact ⟨_, _, _, rfl, hfull, hleast, hplace⟩

end Natural

/-! ## Packing -/

section Pack

variable (sign : Sign)

theorem ofBitVec_unpackSign (exponentBits : BitVec 11) (mantissaBits : BitVec 52) :
    Sign.ofBitVec (@unpackSign .binary64
      (packComponents .binary64 sign exponentBits mantissaBits)) = sign := by
  rw [unpackSign, packComponents, BitVec.extractLsb,
    BitVec.extractLsb'_append_eq_of_le (by decide),
    BitVec.extractLsb'_append_eq_of_le (by decide)]
  cases sign <;> rfl

theorem unpack_packedInfinity :
    UnpackedFloat.unpack .binary64 (packedInfinity .binary64 sign) = .infinity sign := by
  rw [UnpackedFloat.unpack, packedInfinity]
  simp only [unpackExponent_packComponents, unpackMantissa_packComponents, if_true,
    ofBitVec_unpackSign]
  rfl

theorem unpack_packComponents {exponentBits : BitVec 11} (mantissaBits : BitVec 52)
    (hfinite : exponentBits ≠ -1#11) (hnormal : exponentBits ≠ 0#11) :
    ∃ hpos, UnpackedFloat.unpack .binary64
        (packComponents .binary64 sign exponentBits mantissaBits) =
      .finite sign (2 ^ 52 + mantissaBits.toNat) (exponentBits.toNat - 1075) hpos := by
  have hleading : (1#1 ++ mantissaBits).toNat = 2 ^ 52 + mantissaBits.toNat := by
    rw [BitVec.toNat_append, ← Nat.shiftLeft_add_eq_or_of_lt mantissaBits.isLt]
    rfl
  refine ⟨by omega, ?_⟩
  rw [UnpackedFloat.unpack]
  simp only [unpackExponent_packComponents, unpackMantissa_packComponents, if_neg hfinite,
    if_neg hnormal, ofBitVec_unpackSign, hleading]
  rfl

/-- Packing leaves a rounded double as it is, or makes it infinite. -/
theorem placeOf_unpack_pack {mantissa : ℕ} {exponent : ℤ} (hpos : 0 < mantissa)
    (hfull : mantissa.log2 = 52) (hleast : -1074 ≤ exponent) :
    let unpacked := UnpackedFloat.unpack .binary64
      (UnpackedFloat.pack .binary64 (.finite sign mantissa exponent hpos))
    unpacked ≠ .notANumber ∧
      placeOf unpacked =
        sign.apply (min (magnitude mantissa exponent) infiniteMagnitude) := by
  obtain ⟨hlow, hhigh⟩ := (Nat.log2_eq_iff hpos.ne').mp hfull
  have hbias : (Format.binary64.exponentBias : ℤ) +
      Format.binary64.mantissaBitsWithoutImplicit = 1075 := rfl
  have hbits : mantissa.log2 + 1 = Format.binary64.mantissaBits := congrArg (· + 1) hfull
  dsimp only
  rw [UnpackedFloat.pack, Int.add_assoc, hbias]
  dsimp only
  by_cases hgreat : 2 ^ 11 ≤ (exponent + 1075).toNat + 1
  · have hinfinite : infiniteMagnitude ≤ magnitude mantissa exponent := by
      rw [infiniteMagnitude, magnitude]
      omega
    rw [if_pos hgreat, unpack_packedInfinity, min_eq_right hinfinite]
    refine ⟨fun hnan => ?_, rfl⟩
    cases hnan
  · have hfits : Fits mantissa exponent := ⟨hhigh, hleast, by omega, Or.inr hlow⟩
    have hexponent : (BitVec.ofNat 11 (exponent + 1075).toNat).toNat =
        (exponent + 1075).toNat := Nat.mod_eq_of_lt (by omega)
    have hmantissa : 2 ^ 52 + (BitVec.ofNat 52 mantissa).toNat = mantissa := by
      rw [BitVec.toNat_ofNat]
      omega
    have hinside : ∀ bits : BitVec 11, bits.toNat = 0 ∨ bits.toNat = 2047 →
        BitVec.ofNat 11 (exponent + 1075).toNat ≠ bits := by
      rintro bits hends rfl
      omega
    obtain ⟨hpos', hunpack⟩ := unpack_packComponents sign (BitVec.ofNat 52 mantissa)
      (hinside _ (Or.inr rfl)) (hinside _ (Or.inl rfl))
    rw [if_neg hgreat, if_pos hbits, hunpack, min_eq_left hfits.magnitude_lt.le]
    refine ⟨fun hnan => ?_, ?_⟩
    · cases hnan
    · rw [placeOf, hmantissa, hexponent]
      exact congrArg (fun e => sign.apply (magnitude mantissa e)) (by omega)

end Pack

/-! ## The place of the nearest double -/

/-- The place of the double nearest to a natural number. -/
def nearestPlace (n : ℕ) : ℤ :=
  if n = 0 then 0 else min (magnitude (significand n) (n.log2 - 52)) infiniteMagnitude

theorem nearestPlace_mono {m n : ℕ} (hle : m ≤ n) : nearestPlace m ≤ nearestPlace n := by
  have hinfinite : 0 ≤ infiniteMagnitude := by decide
  rcases Nat.eq_zero_or_pos m with rfl | hm
  · rw [nearestPlace, if_pos rfl, nearestPlace, magnitude]
    split_ifs <;> omega
  · have hn : 0 < n := hm.trans_le hle
    have hlog : m.log2 ≤ n.log2 :=
      (Nat.le_log2 hn.ne').mpr ((Nat.log2_self_le hm.ne').trans hle)
    rw [nearestPlace, nearestPlace, if_neg hm.ne', if_neg hn.ne']
    refine min_le_min_right _ ?_
    rw [magnitude, magnitude]
    rcases Nat.lt_or_eq_of_le hlog with hlt | heq
    · -- At most the first double of the next exponent.
      have hhigh := significand_le hm
      have hlow := le_significand hn
      omega
    · have hrounded : significand m ≤ significand n := by
        rw [significand, significand, heq]
        exact roundEven_mono _ (Nat.mul_le_mul_right _ hle)
      omega

theorem nearestPlace_nonneg (n : ℕ) : 0 ≤ nearestPlace n :=
  nearestPlace_mono (Nat.zero_le n)

theorem unpack_ofInt (n : ℤ) :
    (ofInt n).toModel.unpack = UnpackedFloat.unpack .binary64
      (UnpackedFloat.pack .binary64 (UnpackedFloat.normalize .binary64 n 0 .positive)) :=
  rfl

theorem unpack_round {n : ℕ} (hpos : 0 < n) (sign : Sign) :
    let unpacked := UnpackedFloat.unpack .binary64
      (UnpackedFloat.pack .binary64 (UnpackedFloat.round .binary64 sign n 0))
    unpacked ≠ .notANumber ∧ placeOf unpacked = sign.apply (nearestPlace n) := by
  obtain ⟨mantissa, exponent, hpositive, hround, hfull, hleast, hplace⟩ :=
    exists_round_eq hpos sign
  rw [hround, nearestPlace, if_neg hpos.ne', ← hplace]
  exact placeOf_unpack_pack sign hpositive hfull hleast

theorem place_ofInt (n : ℤ) :
    (ofInt n).isNaN = false ∧ place (ofInt n) = n.sign * nearestPlace n.natAbs := by
  rw [← Bool.not_eq_true, isNaN_iff, place, unpack_ofInt, UnpackedFloat.normalize]
  rcases lt_trichotomy n 0 with hneg | rfl | hpos
  · have habs : (-n).toNat = n.natAbs := by omega
    rw [compare_lt_iff_lt.mpr hneg, Int.sign_eq_neg_one_of_neg hneg, neg_one_mul, ← habs]
    exact unpack_round (by omega) .negative
  · exact ⟨nofun, rfl⟩
  · have habs : n.toNat = n.natAbs := by omega
    rw [compare_gt_iff_gt.mpr hpos, Int.sign_eq_one_of_pos hpos, one_mul, ← habs]
    exact unpack_round (by omega) .positive

theorem isNaN_ofInt (n : ℤ) : (ofInt n).isNaN = false :=
  (place_ofInt n).1

/-- Rounding keeps the order of integers. -/
theorem place_ofInt_mono {m n : ℤ} (hle : m ≤ n) : place (ofInt m) ≤ place (ofInt n) := by
  rw [(place_ofInt m).2, (place_ofInt n).2]
  have hm := nearestPlace_nonneg m.natAbs
  have hn := nearestPlace_nonneg n.natAbs
  rcases lt_trichotomy m 0 with hneg | rfl | hpos
  · rw [Int.sign_eq_neg_one_of_neg hneg]
    rcases lt_trichotomy n 0 with hneg' | rfl | hpos'
    · have hmono : nearestPlace n.natAbs ≤ nearestPlace m.natAbs :=
        nearestPlace_mono (by omega)
      rw [Int.sign_eq_neg_one_of_neg hneg']
      omega
    · rw [Int.sign_zero]
      omega
    · rw [Int.sign_eq_one_of_pos hpos']
      omega
  · rw [Int.sign_zero, zero_mul]
    exact mul_nonneg (Int.sign_nonneg_iff.mpr hle) hn
  · have hmono : nearestPlace m.natAbs ≤ nearestPlace n.natAbs :=
      nearestPlace_mono (by omega)
    rw [Int.sign_eq_one_of_pos hpos, Int.sign_eq_one_of_pos (hpos.trans_le hle)]
    omega

end PredicateDispatch.Binary64
