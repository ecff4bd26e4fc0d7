import Mathlib.Tactic.SplitIfs
import SqlTemplate.Value

/-!
# The characters of a displayed value

A scalar that is no string is displayed with simple characters, which are letters, digits and a
few signs: `simple_display` goes through numbers, dates and timestamps down to the digits of
natural numbers. So every other character of a statement, the mark of a placeholder among them,
comes from the template or from a string.
-/

namespace SqlTemplate

/-- A character that numbers, dates and the words for other values are written with. -/
def Text.isSimple (c : Char) : Bool :=
  c.isAlphanum || c == '-' || c == '+' || c == '.' || c == ':' || c == ' '

/-- The text is written with such characters only. -/
def Text.Simple (cs : List Char) : Prop :=
  ∀ c ∈ cs, Text.isSimple c = true

/-- Each character is looked at. -/
instance (cs : List Char) : Decidable (Text.Simple cs) :=
  decidable_of_iff (cs.all Text.isSimple = true) List.all_eq_true

namespace Text.Simple

/-- Two simple texts are simple together. -/
theorem append {cs ds : List Char} (hc : Simple cs) (hd : Simple ds) :
    Simple (cs ++ ds) :=
  List.forall_mem_append.2 ⟨hc, hd⟩

/-- So are two strings. -/
theorem string_append {s t : String} (hs : Simple s.toList) (ht : Simple t.toList) :
    Simple (s ++ t).toList := by
  rw [String.toList_append]
  exact hs.append ht

/-- What is made of characters of a simple text is simple. -/
theorem of_subset {cs ds : List Char} (hd : Simple ds) (h : cs ⊆ ds) : Simple cs :=
  fun c hc => hd c (h hc)

/-- One simple character, any number of times, is simple. -/
theorem replicate {c : Char} (h : isSimple c = true) (n : Nat) :
    Simple (List.replicate n c) := by
  intro d hd
  rw [List.eq_of_mem_replicate hd]
  exact h

/-- The digits of a number are simple. -/
theorem toDigits (n : Nat) : Simple (Nat.toDigits 10 n) := by
  intro c hc
  have hdigit : c.isDigit = true := Nat.isDigit_of_mem_toDigits (by decide) (by decide) hc
  simp [isSimple, Char.isAlphanum, hdigit]

end Text.Simple

open Text (Simple)

namespace Calendar

/-- A number filled up with zeros is simple. -/
theorem simple_padded (width n : Nat) : Simple (padded width n).toList := by
  unfold padded
  rw [String.toList_ofList]
  exact (Simple.replicate (by decide) _).append (Simple.toDigits n)

/-- So is a year with its sign. -/
theorem simple_yearText (year : Int) : Simple (yearText year).toList := by
  unfold yearText
  split_ifs
  · exact simple_padded _ _
  · exact Simple.string_append (by decide) (simple_padded _ _)
  · exact Simple.string_append (by decide) (simple_padded _ _)

end Calendar

open Calendar

/-- The text of a date is simple. -/
theorem Date.simple_toText (d : Date) : Simple d.toText.toList := by
  unfold toText
  refine Simple.string_append ?_ (simple_padded _ _)
  refine Simple.string_append ?_ (by decide)
  refine Simple.string_append ?_ (simple_padded _ _)
  exact Simple.string_append (simple_yearText _) (by decide)

/-- The displayed text of a timestamp is simple. -/
theorem Value.simple_timestampText (t : Timestamp) : Simple (timestampText t).toList := by
  unfold timestampText Timestamp.toText Fraction.text
  refine Simple.string_append ?_ (Simple.string_append (by decide) (simple_padded _ _))
  refine Simple.string_append ?_ (simple_padded _ _)
  refine Simple.string_append ?_ (by decide)
  refine Simple.string_append ?_ (simple_padded _ _)
  refine Simple.string_append ?_ (by decide)
  refine Simple.string_append ?_ (simple_padded _ _)
  exact Simple.string_append t.date.simple_toText (by decide)

namespace Decimal

/-- Digits without their trailing zeros are simple. -/
theorem simple_significantDigits (n : Nat) : Simple (significantDigits n) := by
  refine (Simple.toDigits n).of_subset ?_
  intro c hc
  -- They are the reversed digits without zeros in front, reversed again.
  rw [significantDigits, List.mem_reverse] at hc
  exact List.mem_reverse.1 ((List.dropWhile_sublist _).subset hc)

/-- Digits with a point and zeros among them are simple. -/
theorem simple_positional {digits : List Char} (h : Simple digits) (point : Int) :
    Simple (positional "" digits point).toList := by
  unfold positional
  have hzeros : ∀ n, Simple (List.replicate n '0') := Simple.replicate (by decide)
  split_ifs
  · rw [String.toList_ofList, List.cons_append, List.cons_append]
    have hpoint : Simple ['0', '.'] := by decide
    exact hpoint.append ((hzeros _).append h)
  · refine Simple.string_append ?_ (by decide)
    rw [String.toList_ofList]
    exact h.append (hzeros _)
  · rw [String.toList_ofList]
    refine (h.of_subset (List.take_subset _ _)).append ?_
    have hpoint : Simple ['.'] := by decide
    exact hpoint.append (h.of_subset (List.drop_subset _ _))

/-- The text of a positive decimal is simple. -/
theorem simple_digits (d : Scientific) : Simple (Layout.plain.digits d).toList :=
  simple_positional (simple_significantDigits _) _

/-- The text of a decimal is simple. -/
theorem simple_render (x : Float) : Simple (Layout.plain.render x).toList := by
  unfold Layout.render
  split
  · decide
  · decide
  · decide
  · decide
  · decide
  · exact simple_digits _
  · exact Simple.string_append (by decide) (simple_digits _)

end Decimal

namespace Value

/-- The text of a whole number is simple. -/
theorem simple_toString_int (n : Int) : Simple (toString n).toList := by
  cases n with
  | ofNat n =>
    rw [show toString (Int.ofNat n) = toString n from rfl, Nat.toString_eq_ofList_toDigits,
      String.toList_ofList]
    exact Simple.toDigits n
  | negSucc n =>
    rw [show toString (Int.negSucc n) = "-" ++ toString (n + 1) from rfl,
      Nat.toString_eq_ofList_toDigits]
    refine Simple.string_append (by decide) ?_
    rw [String.toList_ofList]
    exact Simple.toDigits _

/-- A scalar that is no string is displayed with simple characters. -/
theorem simple_display {v : Value} (hcompound : v.isCompound = false)
    (hstring : v.asString? = none) : Simple v.display.toList := by
  cases v with
  | null => exact (by decide : Simple "null".toList)
  | bool b => cases b <;> exact (by decide)
  | integer n => exact simple_toString_int _
  | decimal x => exact Decimal.simple_render x
  | string s => simp [asString?] at hstring
  | date d => exact d.simple_toText
  | timestamp t => exact simple_timestampText t
  | list items => simp [isCompound] at hcompound
  | object properties => simp [isCompound] at hcompound

end Value

end SqlTemplate
