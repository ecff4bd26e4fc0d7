import SqlTemplate.Decimal.Read

/-!
# JSON numbers

A numeral is a number as a text spells it. A whole numeral that fits into 64 bits stands for that
whole number, and every other one for a floating-point number, which is computed from a
significand of 64 bits and a power of ten: digits that do not fit into the significand are dropped
(those of the whole part still count towards the power), and the power is applied by one
multiplication or by divisions, each of which rounds. So the result need not be the nearest
floating-point number; a numeral whose number is too large has no value at all.
-/

namespace SqlTemplate.Json

/-- A number as it is spelled. -/
structure Numeral where
  /-- It has a minus sign. -/
  negative : Bool
  /-- The digits of the whole part. -/
  whole : List Char
  /-- The digits after the point, if there is one. -/
  fraction : Option (List Char) := none
  /-- The power of ten, if there is one. -/
  power : Option Int := none
  deriving DecidableEq, Repr

/-- The value of a numeral. -/
inductive Number where
  /-- A whole number that fits into 64 bits, with a sign or without. -/
  | integer (n : Int)
  /-- A floating-point number. -/
  | float (x : Float)

/-- Appends digits to a number while the result fits into 64 bits; the digits that are left. -/
def significand : Nat → List Char → Nat × List Char
  | n, [] => (n, [])
  | n, c :: cs =>
    let m := 10 * n + (c.toNat - '0'.toNat)
    if m < UInt64.size then significand m cs else (n, c :: cs)

/-- The power of ten nearest to `10 ^ n`. -/
def tenTo (n : Nat) : Float :=
  Float.ofScientific 1 false n

/-- The greatest power of ten that is applied at once. -/
def maxPower : Nat := 308

/-- `x` divided by `10 ^ n`, by the greatest power as long as the rest exceeds it. -/
def scaleDown (x : Float) (n : Nat) : Float :=
  if n ≤ maxPower then x / tenTo n
  else if x == 0 then x
  else scaleDown (x / tenTo maxPower) (n - maxPower)
termination_by n
decreasing_by
  have : 0 < maxPower := by decide
  omega

/-- `x` multiplied by `10 ^ n`, if that is finite. -/
def scaleUp? (x : Float) (n : Nat) : Option Float :=
  if n ≤ maxPower then
    let y := x * tenTo n
    if y.isInf then none else some y
  else if x == 0 then some x
  else none

/-- The number `significand * 10 ^ power`, if it is finite. -/
def scale? (significand : Nat) (power : Int) : Option Float :=
  let x := (UInt64.ofNat significand).toFloat
  if power < 0 then some (scaleDown x power.natAbs) else scaleUp? x power.natAbs

namespace Numeral

/-- The magnitude of the number as a floating-point number. -/
def magnitude? (n : Numeral) : Option Float :=
  let fraction := n.fraction.getD []
  let (whole, surplus) := significand 0 n.whole
  let (digits, dropped) := significand whole fraction
  -- A digit of the fraction that is kept lowers the power by one, and a digit of the whole part
  -- that is dropped raises it by one.
  let places := (fraction.length : Int) - (dropped.length : Int)
  scale? digits ((surplus.length : Int) - places + n.power.getD 0)

/-- The value of the numeral, if it is in range. A negative zero is a floating-point number, and so
is a negative number below the least of 64 bits. -/
def value? (n : Numeral) : Option Number :=
  let m := Decimal.digitsValue n.whole
  if n.fraction.isNone ∧ n.power.isNone ∧ n.negative = false ∧ m < UInt64.size then
    some (.integer m)
  else if n.fraction.isNone ∧ n.power.isNone ∧ n.negative = true ∧ 0 < m ∧
      Int64.minValue.toInt ≤ -(m : Int) then
    some (.integer (-(m : Int)))
  else
    n.magnitude?.map fun x => .float (if n.negative then -x else x)

end Numeral

/-- The whole part of a number: digits, the first of which is no zero unless it is the only one. -/
def wholePart? (cs : List Char) : Option (List Char × List Char) :=
  match cs.takeWhile Char.isDigit with
  | [] | '0' :: _ :: _ => none
  | digits => some (digits, cs.dropWhile Char.isDigit)

/-- The digits after a point, if there is one. -/
def fractionPart? : List Char → Option (Option (List Char) × List Char)
  | '.' :: cs =>
    if (cs.takeWhile Char.isDigit).isEmpty then none
    else some (some (cs.takeWhile Char.isDigit), cs.dropWhile Char.isDigit)
  | cs => some (none, cs)

/-- The power of ten after its mark, if there is one. -/
def powerPart? : List Char → Option (Option Int × List Char)
  | [] => some (none, [])
  | mark :: cs =>
    if mark = 'e' ∨ mark = 'E' then
      let (negative, rest) := Decimal.splitSign cs
      let digits := rest.takeWhile Char.isDigit
      let n := Decimal.digitsValue digits
      if digits.isEmpty then none
      else some (some (if negative then -(n : Int) else n), rest.dropWhile Char.isDigit)
    else some (none, mark :: cs)

/-- The number that a text without its sign starts with, and the text after it. -/
def numeral? (negative : Bool) (cs : List Char) : Option (Numeral × List Char) :=
  match wholePart? cs with
  | none => none
  | some (whole, cs) =>
    match fractionPart? cs with
    | none => none
    | some (fraction, cs) =>
      (powerPart? cs).map fun (power, rest) => (⟨negative, whole, fraction, power⟩, rest)

/-- The whole part has a digit at least. -/
theorem length_wholePart?_lt {cs digits rest : List Char}
    (h : wholePart? cs = some (digits, rest)) : rest.length < cs.length := by
  unfold wholePart? at h
  split at h
  · simp at h
  · simp at h
  · next hne _ =>
    obtain ⟨_, rfl⟩ := Prod.mk.inj (Option.some.inj h)
    have hlen := congrArg List.length
      (List.takeWhile_append_dropWhile (p := Char.isDigit) (l := cs))
    rw [List.length_append] at hlen
    have := List.length_pos_iff.mpr hne
    omega

/-- The fraction, if there is one, is taken off the text. -/
theorem length_fractionPart?_le {cs rest : List Char} {fraction : Option (List Char)}
    (h : fractionPart? cs = some (fraction, rest)) : rest.length ≤ cs.length := by
  unfold fractionPart? at h
  split at h
  · next cs =>
    split at h
    · simp at h
    · obtain ⟨_, rfl⟩ := Prod.mk.inj (Option.some.inj h)
      have := (cs.dropWhile_sublist Char.isDigit).length_le
      rw [List.length_cons]
      omega
  · simp_all

/-- The sign, if there is one, is taken off the text. -/
theorem length_splitSign_le (cs : List Char) : (Decimal.splitSign cs).2.length ≤ cs.length := by
  unfold Decimal.splitSign
  split <;> simp

/-- The power, if there is one, is taken off the text. -/
theorem length_powerPart?_le {cs rest : List Char} {power : Option Int}
    (h : powerPart? cs = some (power, rest)) : rest.length ≤ cs.length := by
  unfold powerPart? at h
  split at h
  · simp_all
  -- Behind the mark stand a sign, if there is one, and digits.
  · next mark cs =>
    split at h
    · dsimp only at h
      split at h
      · simp at h
      · obtain ⟨_, rfl⟩ := Prod.mk.inj (Option.some.inj h)
        have := ((Decimal.splitSign cs).2.dropWhile_sublist Char.isDigit).length_le
        have := length_splitSign_le cs
        rw [List.length_cons]
        omega
    · simp_all

/-- A numeral has a character at least. -/
theorem length_numeral?_lt {negative : Bool} {cs rest : List Char} {n : Numeral}
    (h : numeral? negative cs = some (n, rest)) : rest.length < cs.length := by
  unfold numeral? at h
  split at h
  · simp at h
  · next hw =>
    split at h
    · simp at h
    · next hf =>
      obtain ⟨_, hp, heq⟩ := Option.map_eq_some_iff.mp h
      obtain ⟨_, rfl⟩ := Prod.mk.inj heq
      have := length_wholePart?_lt hw
      have := length_fractionPart?_le hf
      have := length_powerPart?_le hp
      omega

end SqlTemplate.Json
