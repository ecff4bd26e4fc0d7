import Mathlib
import SqlTemplate.Proofs.Value.Order

/-!
# Rounding to a decimal

A number that has more than 53 binary digits is rounded to the decimal nearest to it, of two equally
near to the one with the even mantissa. The rounding drops binary digits one by one and remembers of
them the last one and whether any other was set; that is enough to round as the whole remainder
would (`roundedMantissa_shiftRight`). A mantissa that is rounded up to 54 digits is a power of two
(`roundWithAccuracy_eq`), and a decimal in its normal form is kept by packing it
(`unpack_pack_normal`).
-/

open Float.Model Float.Model.UnpackedFloat

namespace SqlTemplate.Decimal

/-! ## Dropping binary digits -/

/-- The whole number nearest to `n / 2 ^ k`, of two equally near the even one. -/
def roundedShift (n k : Nat) : Nat :=
  let quotient := n / 2 ^ k
  let twice := 2 * (n % 2 ^ k)
  if twice < 2 ^ k then quotient
  else if twice = 2 ^ k then quotient + quotient % 2
  else quotient + 1

/-- Dropping one more digit. -/
theorem shiftRight_succ (em : ExtendedMantissa) (k : Nat) :
    em >>> (k + 1) = (em >>> k).shiftRightOne :=
  rfl

/-- Of the dropped digits the last one is kept, and whether any other is set. -/
theorem shiftRight_exact (n k : Nat) :
    (ExtendedMantissa.mk n false false) >>> (k + 1) =
      ⟨n / 2 ^ (k + 1), n / 2 ^ k % 2 != 0, n % 2 ^ k != 0⟩ := by
  induction k with
  | zero =>
    simp only [shiftRight_succ, Nat.pow_zero, Nat.div_one, Nat.mod_one]
    rfl
  | succ k ih =>
    have hdiv : n / 2 ^ (k + 1) / 2 = n / 2 ^ (k + 2) := by
      rw [Nat.div_div_eq_div_mul, ← Nat.pow_succ]
    -- A bit that was shifted out before, or is now, is remembered.
    have hsticky : ((n / 2 ^ k % 2 != 0) || (n % 2 ^ k != 0)) = (n % 2 ^ (k + 1) != 0) := by
      rw [Nat.mod_pow_succ]
      rcases Nat.mod_two_eq_zero_or_one (n / 2 ^ k) with hbit | hbit
      · simp [hbit]
      · simp [hbit]
    rw [shiftRight_succ, ih]
    simp only [ExtendedMantissa.shiftRightOne, hdiv, hsticky]

/-- Rounding after dropping digits rounds to the nearest whole number. -/
theorem roundedMantissa_shiftRight (n k : Nat) :
    ((ExtendedMantissa.mk n false false) >>> k).roundedMantissa = roundedShift n k := by
  cases k with
  | zero =>
    have hkept : roundedShift n 0 = n := by simp [roundedShift, Nat.mod_one]
    rw [hkept]
    rfl
  | succ k =>
    have hlt : n % 2 ^ k < 2 ^ k := Nat.mod_lt _ (Nat.two_pow_pos k)
    -- The remainder is compared with the half by its first digit, then by the others.
    have hfirst : n % 2 ^ (k + 1) = n % 2 ^ k + 2 ^ k * (n / 2 ^ k % 2) := Nat.mod_pow_succ
    have hhalf : 2 ^ (k + 1) = 2 * 2 ^ k := Nat.pow_succ'
    rw [shiftRight_exact]
    simp only [roundedShift, hfirst]
    rcases Nat.mod_two_eq_zero_or_one (n / 2 ^ k) with hbit | hbit
    · rw [hbit, if_pos (by omega)]
      by_cases hrest : n % 2 ^ k = 0
      · rw [hrest]; rfl
      · rw [bne_iff_ne.mpr hrest]; rfl
    · rw [hbit, if_neg (by omega)]
      by_cases hrest : n % 2 ^ k = 0
      · rw [if_pos (by omega), hrest]; rfl
      · rw [if_neg (by omega), bne_iff_ne.mpr hrest]; rfl

/-- Zeros that are added and dropped again do not count. -/
theorem roundedShift_mul (n k j : Nat) : roundedShift (n * 2 ^ j) (k + j) = roundedShift n k := by
  have hpos : 0 < 2 ^ j := Nat.two_pow_pos j
  have hlt : 2 * (n % 2 ^ k * 2 ^ j) < 2 ^ k * 2 ^ j ↔ 2 * (n % 2 ^ k) < 2 ^ k := by
    rw [← Nat.mul_assoc]
    exact Nat.mul_lt_mul_right hpos
  have heq : 2 * (n % 2 ^ k * 2 ^ j) = 2 ^ k * 2 ^ j ↔ 2 * (n % 2 ^ k) = 2 ^ k := by
    rw [← Nat.mul_assoc]
    exact Nat.mul_left_inj (Nat.ne_of_gt hpos)
  simp only [roundedShift, Nat.pow_add, Nat.mul_div_mul_right _ _ hpos, Nat.mul_mod_mul_right,
    hlt, heq]

/-- The nearest whole number is one of the two neighbours. -/
theorem roundedShift_bounds (n k : Nat) :
    n / 2 ^ k ≤ roundedShift n k ∧ roundedShift n k ≤ n / 2 ^ k + 1 := by
  unfold roundedShift
  dsimp only
  split_ifs <;> omega

/-- Zeros that are added are counted as digits. -/
theorem log2_mul_two_pow {n : Nat} (hn : n ≠ 0) (j : Nat) : (n * 2 ^ j).log2 = n.log2 + j := by
  induction j with
  | zero => rw [Nat.pow_zero, Nat.mul_one, Nat.add_zero]
  | succ j ih =>
    have hpos : n * 2 ^ j ≠ 0 := Nat.mul_ne_zero hn (Nat.ne_of_gt (Nat.two_pow_pos j))
    rw [Nat.pow_succ', Nat.mul_left_comm, Nat.log2_two_mul hpos, ih, Nat.add_assoc]

/-- Dropping all but 53 digits leaves at least 2 ^ 52, and at most 2 ^ 53 after rounding. -/
theorem roundedShift_mem {n k : Nat} (h : n.log2 = 52 + k) :
    2 ^ 52 ≤ roundedShift n k ∧ roundedShift n k ≤ 2 ^ 53 := by
  have hn : n ≠ 0 := by
    rintro rfl
    rw [Nat.log2_zero] at h
    omega
  obtain ⟨hlow, hhigh⟩ := (Nat.log2_eq_iff hn).mp h
  have hleast : 2 ^ 52 ≤ n / 2 ^ k := by
    rw [Nat.le_div_iff_mul_le (Nat.two_pow_pos k), ← Nat.pow_add]
    exact hlow
  have hmost : n / 2 ^ k < 2 ^ 53 := by
    rw [Nat.div_lt_iff_lt_mul (Nat.two_pow_pos k), ← Nat.pow_add]
    exact Nat.lt_of_lt_of_eq hhigh (by congr 1; omega)
  obtain ⟨hle, hge⟩ := roundedShift_bounds n k
  omega

/-! ## Rounding to 53 digits -/

/-- The exponent of a number with at least 53 digits is where its 53rd digit stands. -/
theorem targetExponent_eq {n k : Nat} {e : Int} (h : n.log2 = 52 + k) (he : -1074 ≤ e + k) :
    Format.binary64.targetExponent (totalExponent n e) = e + k := by
  simp only [Format.targetExponent, totalExponent, h, Format.mantissaBits, Format.minExponent]
  omega

/-- With the exponent that the format asks for, the mantissa is shifted down to its width. -/
theorem shiftToTargetExponent_eq {n k : Nat} {e : Int} (h : n.log2 = 52 + k)
    (he : -1074 ≤ e + k) :
    shiftToTargetExponent Format.binary64 n e .exact =
      ((ExtendedMantissa.mk n false false) >>> k, e + k) := by
  have hshift : (e + k - e).toNat = k := by omega
  simp only [shiftToTargetExponent, targetExponent_eq h he, shiftToExponent, hshift,
    ExtendedMantissa.ofMantissaAndAccuracy]

/-- A number with at least 53 digits is rounded to 53 of them. -/
theorem roundWithAccuracy_of_lt {s : Sign} {n k : Nat} {e : Int} (h : n.log2 = 52 + k)
    (he : -1074 ≤ e + k) (hpos : 0 < roundedShift n k) (hlt : roundedShift n k < 2 ^ 53) :
    roundWithAccuracy Format.binary64 s n e .exact = .finite s (roundedShift n k) (e + k) hpos := by
  have hlog : (roundedShift n k).log2 = 52 + 0 :=
    (Nat.log2_eq_iff (Nat.ne_of_gt hpos)).mpr ⟨(roundedShift_mem h).1, hlt⟩
  have hnext : shiftToTargetExponent Format.binary64 (roundedShift n k) (e + k) .exact =
      (⟨roundedShift n k, false, false⟩, e + k) := by
    rw [shiftToTargetExponent_eq hlog (by omega), Int.natCast_zero, Int.add_zero]
    rfl
  simp only [roundWithAccuracy, shiftToTargetExponent_eq h he, roundedMantissa_shiftRight, hnext,
    Nat.ne_of_gt hpos, ↓reduceDIte]

/-- A number that is rounded up to 54 digits is a power of two. -/
theorem roundWithAccuracy_of_eq {s : Sign} {n k : Nat} {e : Int} (h : n.log2 = 52 + k)
    (he : -1074 ≤ e + k) (heq : roundedShift n k = 2 ^ 53) :
    roundWithAccuracy Format.binary64 s n e .exact =
      .finite s (2 ^ 52) (e + k + 1) (Nat.two_pow_pos 52) := by
  have hlog : (2 ^ 53 : Nat).log2 = 52 + 1 := Nat.log2_two_pow
  have hnext : shiftToTargetExponent Format.binary64 (2 ^ 53) (e + k) .exact =
      (⟨2 ^ 52, false, false⟩, e + k + 1) := by
    rw [shiftToTargetExponent_eq hlog (by omega)]
    rfl
  simp only [roundWithAccuracy, shiftToTargetExponent_eq h he, roundedMantissa_shiftRight, heq,
    hnext]
  rfl

/-! ## Packing -/

/-- The exponent and the fraction of a packed normal decimal are read back. -/
theorem unpack_packComponents {s : Sign} {b : Nat} {fraction : BitVec 52} (hpos : 0 < b)
    (hlt : b < 2047) (hm : 0 < (1#1 ++ fraction).toNat) :
    UnpackedFloat.unpack Format.binary64
        (packComponents Format.binary64 s (BitVec.ofNat 11 b) fraction) =
      .finite s (1#1 ++ fraction).toNat (b - 1075) hm := by
  have hval : (BitVec.ofNat 11 b).toNat = b := Nat.mod_eq_of_lt (by show b < 2048; omega)
  have hmax : BitVec.ofNat 11 b ≠ -1#11 := fun h => by
    have := hval.symm.trans (congrArg BitVec.toNat h)
    exact absurd this (by show b ≠ 2047; omega)
  have hmin : BitVec.ofNat 11 b ≠ 0#11 := fun h => by
    have := hval.symm.trans (congrArg BitVec.toNat h)
    exact absurd this (by show b ≠ 0; omega)
  simp only [UnpackedFloat.unpack, unpackExponent_packComponents, unpackMantissa_packComponents,
    unpackSign_packComponents, Sign.ofBitVec_toBitVec, hmax, hmin, ↓reduceIte, hval]
  rfl

/-- The leading digit of a mantissa is not packed. -/
theorem toNat_one_append {m : Nat} (hlow : 2 ^ 52 ≤ m) (hhigh : m < 2 ^ 53) :
    (1#1 ++ BitVec.ofNat 52 m).toNat = m := by
  rw [BitVec.toNat_append, BitVec.toNat_ofNat, Nat.shiftLeft_eq]
  show 1 * 2 ^ 52 ||| m % 2 ^ 52 = m
  rw [Nat.one_mul, Nat.or_comm, Nat.or_two_pow_eq_add_of_lt (Nat.mod_lt m (Nat.two_pow_pos 52))]
  omega

/-- Packing keeps a decimal of 53 digits whose exponent is in range. -/
theorem unpack_pack_normal {s : Sign} {m : Nat} {e : Int} (hpos : 0 < m) (hlow : 2 ^ 52 ≤ m)
    (hhigh : m < 2 ^ 53) (hleast : -1074 ≤ e) (hmost : e ≤ 971) :
    (Float.Model.pack (.finite s m e hpos)).unpack = .finite s m e hpos := by
  have hlog : m.log2 = 52 := (Nat.log2_eq_iff (Nat.ne_of_gt hpos)).mpr ⟨hlow, hhigh⟩
  have hpack : UnpackedFloat.pack Format.binary64 (.finite s m e hpos) =
      packComponents Format.binary64 s (BitVec.ofNat 11 (e + 1075).toNat) (BitVec.ofNat 52 m) := by
    have hsum : (e + Format.binary64.exponentBias +
        Format.binary64.mantissaBitsWithoutImplicit).toNat = (e + 1075).toNat := by
      rw [Int.add_assoc]
      rfl
    have hrange : ¬2 ^ Format.binary64.exponentBits ≤ (e + 1075).toNat + 1 := by
      show ¬2048 ≤ (e + 1075).toNat + 1
      omega
    simp only [UnpackedFloat.pack, hsum, hlog, hrange, ↓reduceIte]
    rfl
  -- Unpacking puts the leading bit of the mantissa back.
  have hm := toNat_one_append hlow hhigh
  show UnpackedFloat.unpack Format.binary64 (UnpackedFloat.pack Format.binary64 _) = _
  rw [hpack, unpack_packComponents (by omega) (by omega) (by rw [hm]; exact hpos)]
  congr 1
  omega

/-- A decimal whose exponent is above the range is packed as infinity. -/
theorem unpack_pack_overflow {s : Sign} {m : Nat} {e : Int} (hpos : 0 < m) (he : 972 ≤ e) :
    (Float.Model.pack (.finite s m e hpos)).unpack = .infinity s := by
  have hpack : UnpackedFloat.pack Format.binary64 (.finite s m e hpos) =
      packedInfinity Format.binary64 s := by
    have hrange : 2 ^ Format.binary64.exponentBits ≤
        (e + Format.binary64.exponentBias +
          Format.binary64.mantissaBitsWithoutImplicit).toNat + 1 := by
      show 2048 ≤ (e + 1023 + 52).toNat + 1
      omega
    simp only [UnpackedFloat.pack, hrange, ↓reduceIte]
  show UnpackedFloat.unpack Format.binary64 (UnpackedFloat.pack Format.binary64 _) = _
  rw [hpack]
  cases s <;> rfl

/-- A zero is packed with its sign. -/
theorem unpack_pack_zero (s : Sign) : (Float.Model.pack (.zero s)).unpack = .zero s := by
  cases s <;> rfl

end SqlTemplate.Decimal
