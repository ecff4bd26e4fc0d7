import Mathlib.Data.List.TakeWhile
import SqlTemplate.Proofs.Condition.Coherence
import SqlTemplate.Proofs.Condition.RoundTrip
import SqlTemplate.Proofs.Decimal.Limit

/-!
# Comparisons with whole numbers

A whole number is compared exactly with one that is written in a condition, if the latter is in the
range of the whole numbers. Outside this range it is read as a decimal, and then the two are
compared as decimals: exactly still, but for the numbers that both are rounded to the end of the
range and taken to be equal (`Scope.holds_wholeNumber`).
-/

namespace SqlTemplate

/-! ## Whole numbers as they are written -/

/-- A whole number as it is written: digits, of any number, and perhaps a minus before them. -/
structure WholeNumber where
  /-- There is a minus. -/
  negative : Bool
  /-- The digits. -/
  digits : List Char
  /-- There is a digit. -/
  nonempty : digits ≠ []
  /-- The digits are digits. -/
  allDigits : ∀ c ∈ digits, c.isDigit = true

namespace WholeNumber

variable (w : WholeNumber)

/-- The text of the number. -/
def text : String :=
  String.ofList (if w.negative then '-' :: w.digits else w.digits)

/-- The size of the number. -/
def size : Nat :=
  Decimal.digitsValue w.digits

/-- The number that is meant. -/
def value : Int :=
  if w.negative then -w.size else w.size

/-- The minus is what the text is split at. -/
theorem splitSign_text : Decimal.splitSign w.text.toList = (w.negative, w.digits) := by
  rw [text, String.toList_ofList]
  cases w.negative with
  | true => rfl
  | false =>
    have hdigits := w.allDigits
    rw [if_neg Bool.false_ne_true]
    unfold Decimal.splitSign
    -- No sign is a digit.
    split
    · next cs h => exact absurd (hdigits '-' (h ▸ List.mem_cons_self)) (by decide)
    · next cs h => exact absurd (hdigits '+' (h ▸ List.mem_cons_self)) (by decide)
    · rfl

/-- The text is read as the number that is meant. -/
theorem integer?_text : Decimal.integer? w.text = some w.value := by
  have hempty : w.digits.isEmpty = false := List.isEmpty_eq_false_iff.mpr w.nonempty
  have hall : w.digits.all Char.isDigit = true := List.all_eq_true.mpr w.allDigits
  simp only [Decimal.integer?, splitSign_text, hempty, hall, Bool.not_false, Bool.and_true,
    if_true]
  rfl

/-- Digits alone are a number without a fraction and a power of ten. -/
theorem magnitude?_digits :
    Decimal.magnitude? w.digits = some (Float.ofScientific w.size false 0) := by
  have htake : w.digits.takeWhile Char.isDigit = w.digits :=
    List.takeWhile_eq_self_iff.mpr w.allDigits
  have hdrop : w.digits.dropWhile Char.isDigit = [] := List.dropWhile_eq_nil_iff.mpr w.allDigits
  have hempty : w.digits.isEmpty = false := List.isEmpty_eq_false_iff.mpr w.nonempty
  simp only [Decimal.magnitude?, htake, hdrop, Decimal.splitFraction, hempty, Bool.false_and,
    Bool.false_eq_true, if_false, List.append_nil]
  rfl

/-- The text of a whole number is read as the decimal nearest to it. -/
theorem ofText?_text : Decimal.ofText? w.text =
    some (if w.negative then -Float.ofScientific w.size false 0
      else Float.ofScientific w.size false 0) := by
  simp only [Decimal.ofText?, splitSign_text, magnitude?_digits]
  rfl

/-- The number can be written in a condition. -/
theorem isNumber_text : ConditionToken.IsNumber w.text := by
  have hnumber : ∀ c ∈ w.digits, ConditionToken.isNumberChar c = true := fun c hc => by
    rw [ConditionToken.isNumberChar, w.allDigits c hc, Bool.true_or]
  unfold ConditionToken.IsNumber
  rw [text, String.toList_ofList]
  cases w.negative with
  | true => exact ⟨'-', w.digits, rfl, hnumber, .inr ⟨rfl, w.nonempty⟩⟩
  | false =>
    obtain ⟨c, cs, hdigits⟩ := List.exists_cons_of_ne_nil w.nonempty
    rw [hdigits] at hnumber
    have hc : c.isDigit = true := w.allDigits c (hdigits ▸ List.mem_cons_self)
    exact ⟨c, cs, hdigits, fun d hd => hnumber d (List.mem_cons_of_mem c hd), .inl hc⟩

/-- In the range of whole numbers the text is a whole number. -/
theorem numberValue?_of_fits (hlow : -2 ^ 63 ≤ w.value) (hhigh : w.value < 2 ^ 63) :
    numberValue? w.text = some (.integer (Int64.ofInt w.value)) := by
  have hfits : (Int64.minValue.toInt ≤ w.value && w.value ≤ Int64.maxValue.toInt) = true := by
    rw [Bool.and_eq_true, decide_eq_true_iff, decide_eq_true_iff]
    exact ⟨hlow, Int.le_of_lt_add_one hhigh⟩
  simp only [numberValue?, integer?_text, Option.filter_some, hfits, if_true]

/-- Outside the range it is a decimal, which stands for the whole number. -/
theorem exists_numberValue? (h : w.value < -2 ^ 63 ∨ 2 ^ 63 ≤ w.value) :
    ∃ x : Float, numberValue? w.text = some (.decimal x) ∧
      Decimal.StandsFor w.value x.toModel.unpack := by
  have hfits : (Int64.minValue.toInt ≤ w.value && w.value ≤ Int64.maxValue.toInt) = false := by
    rw [Bool.and_eq_false_iff, decide_eq_false_iff_not, decide_eq_false_iff_not]
    refine h.imp Int.not_le.mpr fun h => ?_
    exact Int.not_le.mpr (Int.lt_of_lt_of_le (by decide) h)
  -- Outside the range the number has more digits than a decimal keeps.
  have hsize : 2 ^ 53 ≤ w.size := by
    unfold value at h
    split at h <;> omega
  obtain ⟨hpositive, hnegative⟩ := Decimal.standsFor_ofScientific hsize
  have hvalue : numberValue? w.text = some (.decimal (if w.negative then
      -Float.ofScientific w.size false 0 else Float.ofScientific w.size false 0)) := by
    simp only [numberValue?, integer?_text, Option.filter_some, hfits, Bool.false_eq_true, if_false,
      ofText?_text, Option.map_some]
  refine ⟨_, hvalue, ?_⟩
  unfold value
  cases w.negative with
  | true => exact hnegative
  | false => exact hpositive

end WholeNumber

/-! ## Comparisons -/

/-- The comparison of whole numbers that is meant. -/
def CompareOp.relates : CompareOp → Int → Int → Bool
  | eq, n, m => n = m
  | ne, n, m => n ≠ m
  | lt, n, m => n < m
  | le, n, m => n ≤ m
  | gt, n, m => n > m
  | ge, n, m => n ≥ m

/-- Comparing two whole numbers by their order is what the operator says of them. -/
theorem CompareOp.holds_compare (op : CompareOp) (n m : Int) :
    op.holds (compare n m) = op.relates n m := by
  rw [Bool.eq_iff_iff]
  obtain hless | rfl | hmore := Int.lt_trichotomy n m
  · rw [Int.compare_eq_lt.mpr hless]
    cases op <;> simp [holds, relates] <;> omega
  · rw [Int.compare_eq_eq.mpr rfl]
    cases op <;> simp [holds, relates]
  · rw [Int.compare_eq_gt.mpr hmore]
    cases op <;> simp [holds, relates] <;> omega

/-- The condition that compares the value of a path with a whole number. -/
def Expr.comparison (p : Path) (op : CompareOp) (w : WholeNumber) : Expr :=
  .compare (.path p) op (.literal (.number w.text))

/-- The condition may be written with one blank on either side of the sign. -/
theorem Expr.spreads_comparison {name : String} (hname : ConditionToken.IsName name)
    (op : CompareOp) (w : WholeNumber) :
    ConditionToken.Spreads (comparison ⟨name, []⟩ op w).tokens
      (name.toList ++ ' ' :: op.text.toList ++ ' ' :: w.text.toList) := by
  have hnone : ∀ c ∈ ([] : List Char), Text.isBlank c = true := nofun
  have hone : ∀ c ∈ [' '], Text.isBlank c = true := List.forall_mem_singleton.mpr rfl
  have hspread := ConditionToken.Spreads.cons hnone (.identifier hname)
    (.cons hone (.compare op) (.cons hone (.number w.isNumber_text) (.nil hnone)))
  simpa [comparison, Expr.tokens, Operand.tokens, Operand.pathTokens, Literal.token] using hspread

/-- A whole number and one that is written in a condition. -/
theorem CompareOp.apply_wholeNumber (op : CompareOp) (n : Int64) (w : WholeNumber) :
    ∃ v, (Literal.number w.text).value = .ok v ∧
      op.apply (.integer n) v = .ok (if Decimal.Blurred n.toInt w.value then op.holds .eq
        else op.relates n.toInt w.value) := by
  have hlow : -2 ^ 63 ≤ n.toInt := n.le_toInt
  have hhigh : n.toInt < 2 ^ 63 := n.toInt_lt
  -- A number in the range is compared as a whole number, and one outside it as a decimal.
  by_cases hfits : -2 ^ 63 ≤ w.value ∧ w.value < 2 ^ 63
  · refine ⟨.integer (Int64.ofInt w.value), ?_, ?_⟩
    · rw [Literal.value, w.numberValue?_of_fits hfits.1 hfits.2]
    · have hvalue : (Int64.ofInt w.value).toInt = w.value :=
        Int64.toInt_ofInt_of_le hfits.1 hfits.2
      have hclear : ¬Decimal.Blurred n.toInt w.value := by
        unfold Decimal.Blurred
        omega
      rw [if_neg hclear, ← holds_compare]
      refine apply_of_order rfl ?_ op
      rw [Value.order?, hvalue]
  · obtain ⟨x, hx, hstands⟩ := w.exists_numberValue? (by omega)
    refine ⟨.decimal x, by rw [Literal.value, hx], ?_⟩
    have horder := (Decimal.standsFor_nearestFloat n).compare hstands hlow hhigh (by omega)
    have hboth := apply_of_order (a := .integer n) (b := .decimal x) rfl
      ((Value.compareFloats_eq _ x).trans horder) op
    rw [hboth, apply_ite op.holds, holds_compare]

namespace Scope

variable {s : Scope} {p : Path} {n : Int64} (op : CompareOp) (w : WholeNumber)

/-- A condition that compares the value of a path, a whole number, with a whole number written
behind it is read as this comparison, however it is spaced, and it holds exactly if the comparison
of the whole numbers does; but if they are on either side of the end of the range of whole numbers
and rounded to it, then it holds if the comparison does of equal numbers. -/
theorem holds_wholeNumber (hn : s.resolve p = .ok (.integer n)) {source : List Char}
    (hsource : ConditionToken.Spreads (Expr.comparison p op w).tokens source) :
    (Expr.parse (String.ofList source)).bind s.holds =
      .ok (if Decimal.Blurred n.toInt w.value then op.holds .eq
        else op.relates n.toInt w.value) := by
  obtain ⟨v, hv, happly⟩ := op.apply_wholeNumber n w
  have hsides : s.operandValues (.path p) (.literal (.number w.text)) = .ok (.integer n, v) := by
    simp only [operandValues, operandValue, hn, Literal.valueFor, hv]
    rfl
  rw [(Expr.derives_tokens _).parse hsource]
  show s.holds (Expr.comparison p op w) = _
  rw [Expr.comparison, holds, hsides]
  exact happly

/-- The first whole number above the range. -/
def aboveRange : WholeNumber :=
  ⟨false, "9223372036854775808".toList, by decide, List.all_eq_true.mp rfl⟩

/-- The path of the examples is a name. -/
theorem isName_id : ConditionToken.IsName "id" :=
  ⟨'i', ['d'], rfl, rfl, List.all_eq_true.mp rfl, by decide⟩

/-- The last whole number that is not rounded up to the end of the range, and the end. -/
theorem holds_wholeNumber_below :
    let s : Scope := ⟨"pmb", { properties := [("id", .integer 9223372036854775295)] }, []⟩
    (Expr.parse "id < 9223372036854775808").bind s.holds = .ok true := by
  intro s
  have hid : s.resolve ⟨"id", []⟩ = .ok (.integer 9223372036854775295) := rfl
  have hholds := holds_wholeNumber .lt aboveRange hid (Expr.spreads_comparison isName_id .lt _)
  have hsource : String.ofList ("id".toList ++ ' ' :: CompareOp.lt.text.toList ++ ' ' ::
      aboveRange.text.toList) = "id < 9223372036854775808" := by decide +kernel
  have hvalue : aboveRange.value = 9223372036854775808 := by decide
  rw [hsource, hvalue] at hholds
  exact hholds

/-- The last whole number in the range is not equal to the next one, but a condition that compares
them for equality holds. -/
theorem holds_wholeNumber_blurred :
    let s : Scope := ⟨"pmb", { properties := [("id", .integer 9223372036854775807)] }, []⟩
    (Expr.parse "id == 9223372036854775808").bind s.holds = .ok true ∧
    CompareOp.eq.relates 9223372036854775807 9223372036854775808 = false := by
  intro s
  have hparse := (Expr.derives_tokens _).parse (Expr.spreads_comparison isName_id .eq aboveRange)
  have hsource : String.ofList ("id".toList ++ ' ' :: CompareOp.eq.text.toList ++ ' ' ::
      aboveRange.text.toList) = "id == 9223372036854775808" := by decide +kernel
  rw [← hsource, hparse]
  exact ⟨by decide +kernel, rfl⟩

end Scope

end SqlTemplate
