import PredicateDispatch.Proofs.Number.Rounding

/-!
# Integers whose doubles have no fractional part

Up to 53 bits an integer is its own nearest double, and a longer one is rounded to a
multiple of a power of two.  So the nearest double has no fractional part, except that
it is infinite from a certain integer on, and an infinity is no integer.
-/

namespace PredicateDispatch.Binary64

open Float.Model Float.Model.UnpackedFloat

/-- The least natural number whose nearest double is infinite: half of the last step of
a double below `2 ^ 1024`. -/
def leastInfinite : ℕ :=
  2 ^ 1024 - 2 ^ 970

theorem nearestPlace_eq_infinite_iff {n : ℕ} :
    nearestPlace n = infiniteMagnitude ↔ leastInfinite ≤ n := by
  constructor
  · intro hinfinite
    by_contra hlt
    have hbelow : nearestPlace (leastInfinite - 1) < infiniteMagnitude := by
      decide +kernel
    have hmono : nearestPlace n ≤ nearestPlace (leastInfinite - 1) :=
      nearestPlace_mono (by omega)
    omega
  · intro hle
    have hreached : nearestPlace leastInfinite = infiniteMagnitude := by decide +kernel
    have hmono : nearestPlace leastInfinite ≤ nearestPlace n := nearestPlace_mono hle
    have hmost : nearestPlace n ≤ infiniteMagnitude := by
      rw [nearestPlace]
      split_ifs
      · decide
      · exact min_le_right _ _
    omega

/-- A double is determined by its place. -/
theorem Fits.eq_of_magnitude_eq {mantissa mantissa' : ℕ} {exponent exponent' : ℤ}
    (hfits : Fits mantissa exponent) (hfits' : Fits mantissa' exponent')
    (hmagnitude : magnitude mantissa exponent = magnitude mantissa' exponent') :
    mantissa = mantissa' ∧ exponent = exponent' := by
  rcases lt_trichotomy exponent exponent' with hlt | rfl | hgt
  · exact absurd hmagnitude (hfits.magnitude_lt_of_exponent_lt hfits' hlt).ne
  · rw [magnitude, magnitude] at hmagnitude
    exact ⟨by omega, rfl⟩
  · exact absurd hmagnitude (hfits'.magnitude_lt_of_exponent_lt hfits hgt).ne'

/-! ## Mantissas of integers -/

theorem significand_of_log2_le {n : ℕ} (hshort : n.log2 ≤ 52) :
    significand n = n * 2 ^ (52 - n.log2) := by
  have hshift : n.log2 - 52 = 0 := by omega
  rw [significand, hshift, roundEven, pow_zero, Nat.mod_one, Nat.div_one]
  rfl

/-- The mantissa counts whole numbers. -/
def Whole (mantissa : ℕ) (exponent : ℤ) : Prop :=
  0 ≤ exponent ∨ mantissa % twoPow (-exponent) = 0

theorem whole_of_magnitude_eq {n mantissa : ℕ} {exponent : ℤ} (hpos : 0 < n)
    (hfits : Fits mantissa exponent)
    (hmagnitude : magnitude mantissa exponent = magnitude (significand n) (n.log2 - 52)) :
    Whole mantissa exponent := by
  have hlow := le_significand hpos
  have hfinite := hfits.magnitude_lt
  rw [hmagnitude, magnitude, infiniteMagnitude] at hfinite
  rcases Nat.lt_or_eq_of_le (significand_le hpos) with hlt | hfull
  · obtain ⟨rfl, rfl⟩ := hfits.eq_of_magnitude_eq
      ⟨hlt, by omega, by omega, Or.inr hlow⟩ hmagnitude
    rcases Nat.lt_or_ge n.log2 52 with hshort | hlong
    · right
      have hunit : -((n.log2 : ℤ) - 52) = ((52 - n.log2 : ℕ) : ℤ) := by omega
      rw [significand_of_log2_le hshort.le, hunit]
      exact Nat.mul_mod_left _ _
    · exact Or.inl (by omega)
  · -- The rounded mantissa has become the least one of the next exponent.
    have hlong : 52 ≤ n.log2 := by
      by_contra hshort
      have hexact := significand_of_log2_le (n := n) (by omega)
      have hbits := (kept_bits hpos).2
      have hshift : n.log2 - 52 = 0 := by omega
      rw [hshift, pow_zero, Nat.div_one, ← hexact] at hbits
      omega
    have hnext : magnitude mantissa exponent =
        magnitude (2 ^ 52) ((n.log2 : ℤ) - 52 + 1) := by
      rw [hmagnitude, hfull, magnitude, magnitude]
      omega
    obtain ⟨-, rfl⟩ := hfits.eq_of_magnitude_eq
      ⟨by norm_num, by omega, by omega, Or.inr le_rfl⟩ hnext
    exact Or.inl (by omega)

/-! ## Doubles of integers -/

theorem isIntegral_of_whole {x : Float} {sign : Sign} {mantissa : ℕ} {exponent : ℤ}
    {hpos : 0 < mantissa}
    (hunpack : x.toModel.unpack = .finite sign mantissa exponent hpos)
    (hwhole : Whole mantissa exponent) : isIntegral x = true := by
  rw [isIntegral, toInt?, hunpack]
  dsimp only
  rcases hwhole with hnonneg | hmod
  · rw [if_pos hnonneg]
    rfl
  · split_ifs <;> rfl

theorem abs_place_ofInt (n : ℤ) : |place (ofInt n)| = nearestPlace n.natAbs := by
  rw [(place_ofInt n).2, abs_mul, abs_of_nonneg (nearestPlace_nonneg _)]
  rcases eq_or_ne n 0 with rfl | hne
  · rfl
  · rw [Int.abs_sign_of_ne_zero hne, one_mul]

/-- A place that some double has is that of a whole number. -/
theorem whole_of_nearestPlace {n mantissa : ℕ} {exponent : ℤ}
    (hfits : Fits mantissa exponent) (hpos : 0 < mantissa)
    (hplace : magnitude mantissa exponent = nearestPlace n) : Whole mantissa exponent := by
  have hbelow := hfits.magnitude_lt
  have habove := hfits.magnitude_pos hpos
  rw [hplace] at hbelow habove
  rw [nearestPlace] at hplace hbelow habove
  split_ifs at hplace hbelow habove with hzero
  · exact absurd habove (lt_irrefl 0)
  · have hleft := (min_lt_iff.mp hbelow).resolve_right (lt_irrefl _)
    rw [min_eq_left hleft.le] at hplace
    exact whole_of_magnitude_eq (Nat.pos_of_ne_zero hzero) hfits hplace

/-- The nearest double of an integer has no fractional part exactly if it is finite. -/
theorem isIntegral_ofInt_iff (n : ℤ) :
    isIntegral (ofInt n) = true ↔ n.natAbs < leastInfinite := by
  have hplace := abs_place_ofInt n
  rw [← not_le, ← nearestPlace_eq_infinite_iff, ← hplace, place]
  cases hunpack : (ofInt n).toModel.unpack with
  | notANumber =>
      exact absurd (isNaN_iff.mpr hunpack) (by rw [isNaN_ofInt]; decide)
  | infinity sign =>
      refine iff_of_false ?_ (not_not_intro ?_)
      · rw [isIntegral, toInt?, hunpack]
        exact Bool.false_ne_true
      · cases sign <;> decide
  | zero sign =>
      refine iff_of_true ?_ ?_
      · rw [isIntegral, toInt?, hunpack]
        rfl
      · exact (by decide : |(0 : ℤ)| ≠ infiniteMagnitude)
  | finite sign mantissa exponent hpos =>
      have hfits := canonical_unpack _ sign mantissa exponent hpos hunpack
      have habs : |sign.apply (magnitude mantissa exponent)| =
          magnitude mantissa exponent := by
        cases sign
        · rw [Sign.apply, abs_neg, abs_of_pos (hfits.magnitude_pos hpos)]
        · rw [Sign.apply, abs_of_pos (hfits.magnitude_pos hpos)]
      rw [place, hunpack, placeOf, habs] at hplace
      refine iff_of_true ?_ ?_
      · exact isIntegral_of_whole hunpack (whole_of_nearestPlace hfits hpos hplace)
      · rw [placeOf, habs]
        exact hfits.magnitude_lt.ne

theorem natAbs_apply (sign : Sign) (n : ℕ) : (sign.apply (n : ℤ)).natAbs = n := by
  cases sign
  · exact Int.natAbs_neg n
  · rfl

/-- An integer that a double is exactly is below the least one that becomes infinite. -/
theorem natAbs_lt_of_toInt?_eq_some {x : Float} {n : ℤ} (hint : toInt? x = some n) :
    n.natAbs < leastInfinite := by
  have hsmall : 2 ^ 53 < leastInfinite := by decide +kernel
  rw [toInt?] at hint
  cases hunpack : x.toModel.unpack with
  | notANumber => rw [hunpack] at hint; cases hint
  | infinity sign => rw [hunpack] at hint; cases hint
  | zero sign =>
      rw [hunpack] at hint
      obtain rfl := Option.some.inj hint
      exact (Nat.two_pow_pos 53).trans hsmall
  | finite sign mantissa exponent hpos =>
      rw [hunpack] at hint
      obtain ⟨hmantissa, -, hexponent, -⟩ :=
        canonical_unpack _ sign mantissa exponent hpos hunpack
      dsimp only at hint
      split_ifs at hint with hnonneg hwhole
      · obtain rfl := Option.some.inj hint
        have hexponent_le : exponent.toNat ≤ 971 := Int.toNat_le.mpr hexponent
        have hpower := Nat.pow_le_pow_right Nat.two_pos hexponent_le
        rw [natAbs_apply]
        calc mantissa * twoPow exponent ≤ (2 ^ 53 - 1) * 2 ^ 971 :=
              Nat.mul_le_mul (Nat.le_sub_one_of_lt hmantissa) hpower
          _ < leastInfinite := by decide +kernel
      · obtain rfl := Option.some.inj hint
        rw [natAbs_apply]
        exact ((Nat.div_le_self _ _).trans_lt hmantissa).trans hsmall

end PredicateDispatch.Binary64
