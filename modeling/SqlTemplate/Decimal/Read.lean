/-!
# Reading a decimal

`ofText?` reads the text of a number as the nearest binary floating-point number. A text is an
optional sign and then digits with an optional point among, before or after them and an optional
power of ten, or one of the words `inf`, `infinity` and `nan` in any case. Nothing else is read:
neither blanks nor digit separators.
-/

namespace SqlTemplate.Decimal

/-- The value of a run of digits. -/
def digitsValue (cs : List Char) : Nat :=
  cs.foldl (fun n c => 10 * n + (c.toNat - '0'.toNat)) 0

/-- A signed number split into its sign (`true` for minus) and the rest. -/
def splitSign : List Char → Bool × List Char
  | '-' :: cs => (true, cs)
  | '+' :: cs => (false, cs)
  | cs => (false, cs)

/-- The power of ten after `e` or `E`; the empty text stands for none. -/
def exponent? : List Char → Option Int
  | [] => some 0
  | mark :: cs =>
    let (negative, digits) := splitSign cs
    if (mark == 'e' || mark == 'E') && !digits.isEmpty && digits.all Char.isDigit then
      some (if negative then -(digitsValue digits : Int) else digitsValue digits)
    else none

/-- The digits after the point, if there is one, and what follows them. -/
def splitFraction : List Char → List Char × List Char
  | '.' :: cs => (cs.takeWhile Char.isDigit, cs.dropWhile Char.isDigit)
  | cs => ([], cs)

/-- An unsigned number written with digits. -/
def magnitude? (cs : List Char) : Option Float :=
  let whole := cs.takeWhile Char.isDigit
  let (fraction, rest) := splitFraction (cs.dropWhile Char.isDigit)
  if whole.isEmpty && fraction.isEmpty then none
  else
    (exponent? rest).map fun (e : Int) =>
      let power := e - (fraction.length : Int)
      Float.ofScientific (digitsValue (whole ++ fraction)) (power < 0) power.natAbs

/-- An unsigned number written as a word. -/
def word? (cs : List Char) : Option Float :=
  match String.ofList (cs.map Char.toLower) with
  | "inf" | "infinity" => some (1.0 / 0.0)
  | "nan" => some (0.0 / 0.0)
  | _ => none

/-- The number that a text spells. -/
def ofText? (text : String) : Option Float :=
  let (negative, cs) := splitSign text.toList
  (magnitude? cs <|> word? cs).map fun x => if negative then -x else x

/-- The whole number that a text spells: an optional sign and digits. -/
def integer? (text : String) : Option Int :=
  let (negative, digits) := splitSign text.toList
  if !digits.isEmpty && digits.all Char.isDigit then
    some (if negative then -(digitsValue digits : Int) else digitsValue digits)
  else none

end SqlTemplate.Decimal
