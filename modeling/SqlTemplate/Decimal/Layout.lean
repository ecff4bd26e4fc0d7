import SqlTemplate.Decimal.Shortest

/-!
# Laying out a decimal

The digits of a decimal become text in one of two ways: positionally, or with one digit before
the point and a power of ten after it. A `Layout` is the record of those choices; `Layout.plain`,
the one that statements are displayed with, never writes a power of ten and leaves whole numbers
without a point.
-/

namespace SqlTemplate.Decimal

/-- How the digits of a number are laid out as text. -/
structure Layout where
  /-- Which of two equally near shortest decimals is written. -/
  tie : Tie
  /-- The least and the greatest power of ten of a number that is written positionally; without
  them every number is. -/
  window : Option (Int × Int)
  /-- What follows a whole number that is written positionally. -/
  whole : String
  /-- The texts of "not a number", infinity and negative infinity. -/
  special : String × String × String

/-- Positional for every magnitude, without a fraction on whole numbers. -/
def Layout.plain : Layout where
  tie := .up
  window := none
  whole := ""
  special := ("NaN", "inf", "-inf")

/-- The digits of a positive number without its trailing zeros. -/
def significantDigits (n : Nat) : List Char :=
  ((Nat.toDigits 10 n).reverse.dropWhile (· == '0')).reverse

/-- The digits with the point after the first `point` of them, zeros filled in on either side. -/
def positional (whole : String) (digits : List Char) (point : Int) : String :=
  if point ≤ 0 then
    String.ofList ('0' :: '.' :: List.replicate (-point).toNat '0' ++ digits)
  else if digits.length ≤ point.toNat then
    String.ofList (digits ++ List.replicate (point.toNat - digits.length) '0') ++ whole
  else
    String.ofList (digits.take point.toNat ++ '.' :: digits.drop point.toNat)

/-- One digit, the others as its fraction, and the power of ten with its sign. -/
def scientific (digits : List Char) (power : Int) : String :=
  let fraction := match digits.tail with
    | [] => ""
    | rest => String.ofList ('.' :: rest)
  let sign := if power < 0 then "e-" else "e+"
  String.ofList (digits.take 1) ++ fraction ++ sign ++ toString power.natAbs

/-- The text of a positive decimal. -/
def Layout.digits (layout : Layout) (d : Scientific) : String :=
  let digits := significantDigits d.significand
  let point := (Nat.toDigits 10 d.significand).length + d.exponent
  let inWindow := match layout.window with
    | none => true
    | some (least, greatest) => least ≤ point - 1 && point - 1 ≤ greatest
  if inWindow then positional layout.whole digits point else scientific digits (point - 1)

/-- The text of a number. -/
def Layout.render (layout : Layout) (x : Float) : String :=
  match x.toModel.unpack with
  | .notANumber => layout.special.1
  | .infinity .positive => layout.special.2.1
  | .infinity .negative => layout.special.2.2
  | .zero .positive => "0" ++ layout.whole
  | .zero .negative => "-0" ++ layout.whole
  | .finite .positive mantissa exponent _ =>
    layout.digits (shortest layout.tie mantissa exponent)
  | .finite .negative mantissa exponent _ =>
    "-" ++ layout.digits (shortest layout.tie mantissa exponent)

end SqlTemplate.Decimal
