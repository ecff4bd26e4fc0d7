import SqlTemplate.Condition.Compare
import SqlTemplate.Proofs.Decimal.Rounding

/-!
# Whole numbers and decimals at the limit

A whole number outside the range of the whole numbers that a value can be is read as a decimal, and
a value compared with it is rounded to one. The range ends at `2 ^ 63`, where the decimals below
stand 1024 apart and those above 2048. What is rounded to `2 ^ 63` is therefore all between
`2 ^ 63 - 512` and `2 ^ 63 + 1024`, both included, since the mantissa of `2 ^ 63` is even
(`compare_limit`).
-/

open Float.Model Float.Model.UnpackedFloat

namespace SqlTemplate.Decimal

/-! ## The order at the limit -/

/-- `2 ^ 63` as a decimal. -/
def limit : UnpackedFloat :=
  .finite .positive (2 ^ 52) 11 (Nat.two_pow_pos 52)

/-- The order of a whole number and `2 ^ 63` after rounding. -/
def limitOrder (z : Int) : Ordering :=
  if z < 2 ^ 63 - 512 then .lt else if z ≤ 2 ^ 63 + 1024 then .eq else .gt

/-- What is smaller than the halfway point below the limit stays below it. -/
theorem limitOrder_of_lt {z : Int} (h : z < 2 ^ 63 - 512) : limitOrder z = .lt :=
  if_pos h

/-- What lies between the halfway points around the limit is rounded to it. -/
theorem limitOrder_of_near {z : Int} (hlow : 2 ^ 63 - 512 ≤ z) (hhigh : z ≤ 2 ^ 63 + 1024) :
    limitOrder z = .eq := by
  rw [limitOrder, if_neg (by omega), if_pos hhigh]

/-- What is greater than the halfway point above the limit stays above it. -/
theorem limitOrder_of_gt {z : Int} (h : 2 ^ 63 + 1024 < z) : limitOrder z = .gt := by
  rw [limitOrder, if_neg (by omega), if_neg (by omega)]

/-- The order of `2 ^ 63` and the decimal of a mantissa of 53 digits and an exponent. -/
def sizeOrder (m : Nat) (e : Int) : Ordering :=
  (compare e 11).then (compare m (2 ^ 52))

/-- A decimal with a smaller exponent is below the limit. -/
theorem sizeOrder_of_lt {m : Nat} {e : Int} (h : e < 11) : sizeOrder m e = .lt := by
  rw [sizeOrder, Int.compare_eq_lt.mpr h]
  rfl

/-- A decimal with a greater exponent is above the limit. -/
theorem sizeOrder_of_gt {m : Nat} {e : Int} (h : 11 < e) : sizeOrder m e = .gt := by
  rw [sizeOrder, Int.compare_eq_gt.mpr h]
  rfl

/-- With the exponent of the limit, the mantissas decide. -/
theorem sizeOrder_eleven (m : Nat) : sizeOrder m 11 = compare m (2 ^ 52) := by
  rw [sizeOrder, Int.compare_eq_eq.mpr rfl]
  rfl

/-- Below the limit ten bits are rounded away, and half of their range goes up to the limit. -/
theorem roundedShift_ten (n : Nat) (hlow : 2 ^ 62 ≤ n) (hhigh : n < 2 ^ 63) :
    roundedShift n 10 = 2 ^ 53 ↔ 2 ^ 63 - 512 ≤ n := by
  simp only [roundedShift]
  split_ifs <;> omega

/-- Above it eleven bits are rounded away, and half of their range goes down to the limit. -/
theorem roundedShift_eleven (n : Nat) (hlow : 2 ^ 63 ≤ n) :
    roundedShift n 11 = 2 ^ 52 ↔ n ≤ 2 ^ 63 + 1024 := by
  simp only [roundedShift]
  split_ifs <;> omega

/-- The order of a whole number and the limit is found from its first 53 digits, rounded: these are
mantissa and exponent, unless they are a power of two with one digit more. -/
theorem sizeOrder_roundedShift {n j k : Nat} (hn : n ≠ 0) (hk : n.log2 + j = 52 + k) :
    (roundedShift (n * 2 ^ j) k < 2 ^ 53 →
      sizeOrder (roundedShift (n * 2 ^ j) k) (n.log2 - 52) = limitOrder n) ∧
    (roundedShift (n * 2 ^ j) k = 2 ^ 53 →
      sizeOrder (2 ^ 52) (n.log2 - 52 + 1) = limitOrder n) := by
  obtain ⟨hlow, hhigh⟩ := (Nat.log2_eq_iff hn).mp rfl
  have hlog : n.log2 < 62 ∨ n.log2 = 62 ∨ n.log2 = 63 ∨ 63 < n.log2 := by omega
  -- Only numbers as long as those next to the limit can be rounded to it.
  obtain hless | hbelow | habove | hmore := hlog
  · have hsmall : n < 2 ^ 62 := Nat.lt_of_lt_of_le hhigh (Nat.pow_le_pow_right (by decide) hless)
    rw [limitOrder_of_lt (by omega)]
    exact ⟨fun _ => sizeOrder_of_lt (by omega), fun _ => sizeOrder_of_lt (by omega)⟩
  · obtain rfl : k = 10 + j := by omega
    rw [hbelow] at hlow hhigh ⊢
    rw [roundedShift_mul]
    have hlimit := roundedShift_ten n hlow hhigh
    refine ⟨fun hlt => ?_, fun heq => ?_⟩
    · rw [limitOrder_of_lt (by omega)]
      exact sizeOrder_of_lt (by omega)
    · rw [limitOrder_of_near (by omega) (by omega)]
      rfl
  · obtain rfl : k = 11 + j := by omega
    rw [habove] at hlow hhigh ⊢
    rw [roundedShift_mul]
    have hlimit := roundedShift_eleven n hlow
    have hleast := (roundedShift_mem (n := n) (k := 11) habove).1
    refine ⟨fun hlt => ?_, fun heq => ?_⟩
    · rw [show ((63 : Nat) - 52 : Int) = 11 from rfl, sizeOrder_eleven]
      by_cases hnear : n ≤ 2 ^ 63 + 1024
      · rw [limitOrder_of_near (by omega) (by omega), hlimit.mpr hnear]
        rfl
      · rw [limitOrder_of_gt (by omega), Nat.compare_eq_gt]
        omega
    · rw [limitOrder_of_gt (by omega)]
      rfl
  · have hlarge : 2 ^ 64 ≤ n := Nat.le_trans (Nat.pow_le_pow_right (by decide) hmore) hlow
    rw [limitOrder_of_gt (by omega)]
    exact ⟨fun _ => sizeOrder_of_gt (by omega), fun _ => sizeOrder_of_gt (by omega)⟩

/-- A whole number is rounded to a decimal in its normal form, zeros added to it where it has fewer
digits than that. -/
theorem exists_roundWithAccuracy {n j : Nat} (hn : n ≠ 0) (hj : 52 ≤ n.log2 + j) :
    ∃ (m : Nat) (e : Int) (hpos : 0 < m), 2 ^ 52 ≤ m ∧ m < 2 ^ 53 ∧ -1074 ≤ e ∧
      sizeOrder m e = limitOrder n ∧
      ∀ s, roundWithAccuracy Format.binary64 s (n * 2 ^ j) (-j) .exact = .finite s m e hpos := by
  obtain ⟨k, hk⟩ := Nat.exists_eq_add_of_le hj
  have hlog : (n * 2 ^ j).log2 = 52 + k := (log2_mul_two_pow hn j).trans hk
  have he : (-j + k : Int) = n.log2 - 52 := by omega
  have hleast : -1074 ≤ (-j + k : Int) := by omega
  obtain ⟨hlow, hhigh⟩ := roundedShift_mem hlog
  obtain ⟨horder, hcarried⟩ := sizeOrder_roundedShift hn hk
  -- Rounding up may need one digit more, and then the mantissa is a power of two.
  obtain hlt | heq := Nat.lt_or_eq_of_le hhigh
  · have hpos : 0 < roundedShift (n * 2 ^ j) k := by omega
    refine ⟨_, _, hpos, hlow, hlt, hleast, ?_,
      fun s => roundWithAccuracy_of_lt hlog hleast hpos hlt⟩
    rw [he]
    exact horder hlt
  · refine ⟨2 ^ 52, _, Nat.two_pow_pos 52, Nat.le_refl _, by decide, by omega, ?_,
      fun s => roundWithAccuracy_of_eq hlog hleast heq⟩
    rw [he]
    exact hcarried heq

/-! ## Rounded numbers of either sign -/

/-- The decimal has the order with the limit that the whole number has after rounding, and so has
its negation. -/
structure StandsFor (z : Int) (x : UnpackedFloat) : Prop where
  /-- The order with `2 ^ 63`. -/
  above : x.compare limit = some (limitOrder z)
  /-- The order of the negation. -/
  below : x.neg.compare limit = some (limitOrder (-z))

/-- The opposite of the opposite is the decimal itself. -/
theorem neg_neg_unpacked (x : UnpackedFloat) : x.neg.neg = x := by
  cases x with
  | notANumber => rfl
  | _ s => cases s <;> rfl

/-- What stands for a number stands for its opposite with the other sign. -/
theorem StandsFor.neg {z : Int} {x : UnpackedFloat} (h : StandsFor z x) :
    StandsFor (-z) x.neg where
  above := h.below
  below := by rw [neg_neg_unpacked, Int.neg_neg, h.above]

section Packed

variable {m : Nat} {e : Int} (hpos : 0 < m) (hlow : 2 ^ 52 ≤ m) (hhigh : m < 2 ^ 53)
  (hleast : -1074 ≤ e)
include hlow hhigh hleast

/-- A decimal in its normal form is packed as it is, or as infinity above the range. -/
theorem unpack_pack_cases :
    (∀ s, (Float.Model.pack (.finite s m e hpos)).unpack = .finite s m e hpos) ∨
    971 < e ∧ ∀ s, (Float.Model.pack (.finite s m e hpos)).unpack = .infinity s := by
  by_cases he : e ≤ 971
  · exact .inl fun s => unpack_pack_normal hpos hlow hhigh hleast he
  · exact .inr ⟨by omega, fun s => unpack_pack_overflow hpos (by omega)⟩

/-- Negation of a packed decimal changes its sign, and the result is packed as it is. -/
theorem unpack_pack_neg (s : Sign) :
    (Float.Model.pack (Float.Model.pack (.finite s m e hpos)).unpack.neg).unpack =
      (Float.Model.pack (.finite (-s) m e hpos)).unpack := by
  obtain hkept | ⟨-, hinf⟩ := unpack_pack_cases hpos hlow hhigh hleast
  · rw [hkept s]
    rfl
  · rw [hinf s, hinf (-s)]
    cases s <;> rfl

/-- A packed decimal stands for the whole number that was rounded to it. -/
theorem standsFor_pack {n : Nat} (horder : sizeOrder m e = limitOrder n) (s : Sign) :
    StandsFor (s.apply n) (Float.Model.pack (.finite s m e hpos)).unpack := by
  have hnegative : limitOrder (-n) = .lt := limitOrder_of_lt (by omega)
  have hpositive : StandsFor n (Float.Model.pack (.finite .positive m e hpos)).unpack := by
    obtain hkept | ⟨he, hinf⟩ := unpack_pack_cases hpos hlow hhigh hleast
    · rw [hkept]
      exact ⟨congrArg some horder, congrArg some hnegative.symm⟩
    · rw [hinf]
      rw [sizeOrder_of_gt (by omega)] at horder
      exact ⟨congrArg some horder, congrArg some hnegative.symm⟩
  -- With the other sign the packed decimal is the opposite one.
  cases s with
  | positive => exact hpositive
  | negative =>
    have hneg : (Float.Model.pack (.finite .negative m e hpos)).unpack =
        (Float.Model.pack (.finite .positive m e hpos)).unpack.neg := by
      obtain hkept | ⟨-, hinf⟩ := unpack_pack_cases hpos hlow hhigh hleast
      · rw [hkept, hkept]
        rfl
      · rw [hinf, hinf]
        rfl
    rw [hneg]
    exact hpositive.neg

end Packed

/-- Either zero stands for zero. -/
theorem standsFor_zero (s : Sign) : StandsFor 0 (.zero s) := by
  cases s <;> exact ⟨rfl, rfl⟩

/-- A whole number is rounded after zeros were added to it, up to 53 digits. -/
theorem round_eq (s : Sign) (n : Nat) :
    UnpackedFloat.round Format.binary64 s n 0 =
      roundWithAccuracy Format.binary64 s (n * 2 ^ (52 - n.log2)) (-(52 - n.log2 : Nat))
        .exact := by
  have htarget : Format.binary64.targetExponent (totalExponent n 0) = n.log2 - 52 := by
    simp only [Format.targetExponent, totalExponent, Format.mantissaBits, Format.minExponent]
    omega
  have hshift : (-(n.log2 - 52 : Int)).toNat = 52 - n.log2 := by omega
  simp only [UnpackedFloat.round, htarget, decreaseExponent, Int.zero_sub, hshift, Nat.shiftLeft_eq]

/-- The decimal nearest to a whole number stands for it. -/
theorem standsFor_nearestFloat (n : Int64) :
    StandsFor n.toInt (Value.nearestFloat n).toModel.unpack := by
  -- The size of the number is rounded, and then gets its sign.
  have hround (s : Sign) (k : Nat) (hk : k ≠ 0) :
      StandsFor (s.apply k)
        (Float.Model.pack (UnpackedFloat.round Format.binary64 s k 0)).unpack := by
    obtain ⟨m, e, hpos, hlow, hhigh, hleast, horder, hall⟩ :=
      exists_roundWithAccuracy (j := 52 - k.log2) hk (by omega)
    rw [round_eq, hall]
    exact standsFor_pack hpos hlow hhigh hleast horder s
  show StandsFor n.toInt (Float.Model.pack
    (UnpackedFloat.normalize Format.binary64 n.toInt 0 .positive)).unpack
  unfold UnpackedFloat.normalize
  split
  · next hless =>
    rw [Int.compare_eq_lt] at hless
    have hsize : Sign.negative.apply (-n.toInt).toNat = n.toInt := by
      simp only [Sign.apply]
      omega
    have hnegative := hround .negative (-n.toInt).toNat (by omega)
    rwa [hsize] at hnegative
  · next hzero =>
    rw [Int.compare_eq_eq] at hzero
    rw [hzero, unpack_pack_zero]
    exact standsFor_zero _
  · next hmore =>
    rw [Int.compare_eq_gt] at hmore
    have hsize : Sign.positive.apply n.toInt.toNat = n.toInt := by
      simp only [Sign.apply]
      omega
    have hpositive := hround .positive n.toInt.toNat (by omega)
    rwa [hsize] at hpositive

/-- Digits that spell at least `2 ^ 53` are rounded after zeros were added to them. -/
theorem ofScientific_eq {n : Nat} (h : 2 ^ 53 ≤ n) :
    Float.ofScientific n false 0 = Float.ofModel (Float.Model.pack
      (roundWithAccuracy Format.binary64 .positive (n * 2 ^ 53) (-(53 : Nat)) .exact)) := by
  have hn : n ≠ 0 := by omega
  have hleast : ¬(0 : Int) < -((2 ^ 11 : Int) + n.log2) := by omega
  have hunpacked : UnpackedFloat.ofScientific Format.binary64 n 0 =
      roundWithAccuracy Format.binary64 .positive (n * 2 ^ 53) (-(53 : Nat)) .exact := by
    rw [UnpackedFloat.ofScientific, dif_neg hn, if_neg (by decide), if_neg hleast,
      if_pos (by decide), UnpackedFloat.mul, Int.toNat_zero, Nat.pow_zero, Nat.mul_one,
      Int.add_zero, Nat.shiftLeft_eq]
    rfl
  rw [Float.ofScientific, dif_neg (by omega), ← hunpacked]
  rfl

/-- Digits that spell at least `2 ^ 53` are read as a decimal that stands for the whole number, and
its negation for the negative one. -/
theorem standsFor_ofScientific {n : Nat} (h : 2 ^ 53 ≤ n) :
    StandsFor n (Float.ofScientific n false 0).toModel.unpack ∧
    StandsFor (-n) (-Float.ofScientific n false 0).toModel.unpack := by
  obtain ⟨m, e, hpos, hlow, hhigh, hleast, horder, hall⟩ :=
    exists_roundWithAccuracy (n := n) (j := 53) (by omega) (by omega)
  rw [ofScientific_eq h, hall .positive]
  refine ⟨standsFor_pack hpos hlow hhigh hleast horder .positive, ?_⟩
  have hneg := standsFor_pack hpos hlow hhigh hleast horder .negative
  exact (unpack_pack_neg hpos hlow hhigh hleast .positive) ▸ hneg

/-! ## Comparing rounded numbers -/

/-- Negation turns the order around. -/
theorem compare_neg_neg (x y : UnpackedFloat) : y.neg.compare x.neg = x.compare y := by
  match x, y with
  | .finite s m e _, .finite t m' e' _ =>
    -- Numbers of one sign are compared by exponent and mantissa.
    have hsize : (compare e' e).then (compare m' m) =
        ((compare e e').then (compare m m')).swap := by
      rw [Ordering.swap_then, ← Std.OrientedOrd.eq_swap, ← Std.OrientedOrd.eq_swap]
    cases s with
    | negative =>
      cases t with
      | negative => exact congrArg some hsize
      | positive => rfl
    | positive =>
      cases t with
      | negative => rfl
      | positive => exact congrArg some ((congrArg Ordering.swap hsize).trans Ordering.swap_swap)
  | .infinity s, .infinity t | .infinity s, .finite t _ _ _ | .finite s _ _ _, .infinity t
  | .infinity s, .zero t | .zero s, .infinity t | .finite s _ _ _, .zero t
  | .zero s, .finite t _ _ _ | .zero s, .zero t => cases s <;> cases t <;> rfl
  | .infinity s, .notANumber | .finite s _ _ _, .notANumber | .zero s, .notANumber =>
    cases s <;> rfl
  | .notANumber, .infinity s | .notANumber, .finite s _ _ _ | .notANumber, .zero s =>
    cases s <;> rfl
  | .notANumber, .notANumber => rfl

/-- What is equal to the limit is the limit. -/
theorem eq_limit {x : UnpackedFloat} (h : x.compare limit = some .eq) : x = limit := by
  cases x with
  | notANumber => cases h
  | infinity s | zero s => cases s <;> cases h
  | finite s m e hpos =>
    cases s with
    | negative => cases h
    | positive =>
      have hsize : sizeOrder m e = .eq := Option.some.inj h
      obtain ⟨he, hm⟩ := Ordering.then_eq_eq.mp hsize
      obtain rfl := Int.compare_eq_eq.mp he
      obtain rfl := Nat.compare_eq_eq.mp hm
      rfl

/-- What is below the limit is below what is above it. -/
theorem compare_of_lt_gt {x y : UnpackedFloat} (hx : x.compare limit = some .lt)
    (hy : y.compare limit = some .gt) : x.compare y = some .lt := by
  -- What is greater than the limit is infinite or positive, and what is less may be anything below.
  match y with
  | .notANumber | .infinity .negative | .zero .positive | .zero .negative
  | .finite .negative _ _ _ => cases hy
  | .infinity .positive =>
    match x with
    | .notANumber | .infinity .positive => cases hx
    | .infinity .negative | .zero _ | .finite .negative _ _ _ | .finite .positive _ _ _ => rfl
  | .finite .positive m' e' _ =>
    match x with
    | .notANumber | .infinity .positive => cases hx
    | .infinity .negative | .zero _ | .finite .negative _ _ _ => rfl
    | .finite .positive m e _ =>
      have hless : sizeOrder m e = .lt := Option.some.inj hx
      have hmore : sizeOrder m' e' = .gt := Option.some.inj hy
      simp only [sizeOrder, Ordering.then_eq_lt, Ordering.then_eq_gt, Int.compare_eq_lt,
        Int.compare_eq_gt, Int.compare_eq_eq, Nat.compare_eq_lt, Nat.compare_eq_gt] at hless hmore
      have hboth : (Ord.compare e e').then (Ord.compare m m') = .lt := by
        simp only [Ordering.then_eq_lt, Int.compare_eq_lt, Int.compare_eq_eq, Nat.compare_eq_lt]
        omega
      exact congrArg some hboth

/-- Two decimals of which the first is not above the limit and the second not below it are in the
order that both have with the limit. -/
theorem compare_of_limit {x y : UnpackedFloat} {o p : Ordering} (hx : x.compare limit = some o)
    (hy : y.compare limit = some p) (ho : o ≠ .gt) (hp : p ≠ .lt) :
    x.compare y = some (o.then p.swap) := by
  cases o with
  | gt => exact absurd rfl ho
  | eq =>
    obtain rfl := eq_limit hx
    rw [Value.compare_unpacked_swap, hy]
    rfl
  | lt =>
    cases p with
    | lt => exact absurd rfl hp
    | eq =>
      obtain rfl := eq_limit hy
      exact hx
    | gt => exact compare_of_lt_gt hx hy

/-- The whole numbers are on either side of the end of the range of whole numbers and rounded to
it. -/
def Blurred (n m : Int) : Prop :=
  2 ^ 63 - 512 ≤ n ∧ 2 ^ 63 ≤ m ∧ m ≤ 2 ^ 63 + 1024 ∨
  n ≤ -2 ^ 63 + 512 ∧ m < -2 ^ 63 ∧ -2 ^ 63 - 1024 ≤ m

/-- Both conditions are comparisons of whole numbers. -/
instance (n m : Int) : Decidable (Blurred n m) :=
  inferInstanceAs (Decidable (_ ∨ _))

/-- A whole number up to the limit is below one from the limit on, unless both are near it. -/
theorem StandsFor.compare_above {n m : Int} {x y : UnpackedFloat} (hx : StandsFor n x)
    (hy : StandsFor m y) (hn : n ≤ 2 ^ 63) (hm : 2 ^ 63 ≤ m) :
    x.compare y = some (if 2 ^ 63 - 512 ≤ n ∧ m ≤ 2 ^ 63 + 1024 then .eq else .lt) := by
  have hxy := compare_of_limit hx.above hy.above
  -- Both are compared with the limit; they are equal where both are rounded to it.
  by_cases hnear : 2 ^ 63 - 512 ≤ n
  · rw [limitOrder_of_near hnear (by omega)] at hxy
    by_cases hmnear : m ≤ 2 ^ 63 + 1024
    · rw [limitOrder_of_near (by omega) hmnear] at hxy
      rw [if_pos ⟨hnear, hmnear⟩]
      exact hxy nofun nofun
    · rw [limitOrder_of_gt (by omega)] at hxy
      rw [if_neg (by omega)]
      exact hxy nofun nofun
  · rw [limitOrder_of_lt (by omega)] at hxy
    rw [if_neg (by omega)]
    refine hxy nofun ?_
    by_cases hmnear : m ≤ 2 ^ 63 + 1024
    · rw [limitOrder_of_near (by omega) hmnear]
      nofun
    · rw [limitOrder_of_gt (by omega)]
      nofun

/-- The order of a whole number in range and one outside the range, both rounded. -/
theorem StandsFor.compare {n m : Int} {x y : UnpackedFloat} (hx : StandsFor n x)
    (hy : StandsFor m y) (hlow : -2 ^ 63 ≤ n) (hhigh : n < 2 ^ 63) (hm : m < -2 ^ 63 ∨ 2 ^ 63 ≤ m) :
    x.compare y = some (if Blurred n m then .eq else Ord.compare n m) := by
  -- Below the range the opposites are compared, above it the numbers themselves.
  obtain hm | hm := hm
  · have hxy := hx.neg.compare_above hy.neg (by omega) (by omega)
    rw [compare_neg_neg] at hxy
    rw [Value.compare_unpacked_swap, hxy]
    by_cases hblurred : Blurred n m
    · rw [if_pos hblurred, if_pos (by unfold Blurred at hblurred; omega)]
      rfl
    · rw [if_neg hblurred, if_neg (by unfold Blurred at hblurred; omega),
        Int.compare_eq_gt.mpr (by omega)]
      rfl
  · rw [hx.compare_above hy (by omega) hm]
    by_cases hblurred : Blurred n m
    · rw [if_pos hblurred, if_pos (by unfold Blurred at hblurred; omega)]
    · rw [if_neg hblurred, if_neg (by unfold Blurred at hblurred; omega),
        Int.compare_eq_lt.mpr (by omega)]

end SqlTemplate.Decimal
