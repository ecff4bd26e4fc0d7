import Mathlib.Algebra.GroupWithZero.Nat
import SqlTemplate.Calendar.Text
import SqlTemplate.Proofs.Decimal.Digits
import SqlTemplate.Proofs.Outcome
import SqlTemplate.Text.Search

/-!
# Dates and timestamps read back

The text of a date or timestamp is read back as that date or timestamp (`Date.read_toText`,
`Timestamp.read_toText`): years of any length and of either sign, leap seconds and fractions of a
second included. Each reader is shown to take exactly the text of its field off what follows, from
where the reader of the next field goes on.
-/

namespace SqlTemplate

namespace Calendar

open Decimal

/-- No digit is a blank. -/
theorem isBlank_of_isDigit {c : Char} (h : c.isDigit = true) : Text.isBlank c = false := by
  have hcode : 48 ≤ c.toNat ∧ c.toNat ≤ 57 := by
    simpa [Char.isDigit, UInt32.le_iff_toNat_le, ← Char.toNat_val] using h
  cases hblank : Text.isBlank c with
  | false => rfl
  | true =>
    simp only [Text.isBlank, Bool.or_eq_true, Bool.and_eq_true, decide_eq_true_eq,
      beq_iff_eq] at hblank
    omega

/-! ## Numbers of a width -/

/-- A padded number is its digits with zeros before them. -/
theorem toList_padded (width n : Nat) : (padded width n).toList =
    List.replicate (width - (Nat.toDigits 10 n).length) '0' ++ Nat.toDigits 10 n :=
  String.toList_ofList

/-- Zeros are digits, too. -/
theorem isDigit_of_mem_padded {width n : Nat} {c : Char} (h : c ∈ (padded width n).toList) :
    c.isDigit = true := by
  rw [toList_padded, List.mem_append] at h
  rcases h with h | h
  · rw [List.eq_of_mem_replicate h]
    decide
  · exact isDigit_of_mem_toDigits h

/-- The zeros do not change the value. -/
@[simp] theorem digitsValue_padded (width n : Nat) : digitsValue (padded width n).toList = n := by
  rw [toList_padded, digitsValue_replicate_append, digitsValue_toDigits]

/-- A number that is not too long is filled up to the width. -/
theorem length_padded {width n : Nat} (hwidth : 0 < width) (hn : n < 10 ^ width) :
    (padded width n).toList.length = width := by
  have hlength : (Nat.toDigits 10 n).length ≤ width :=
    (Nat.length_toDigits_le_iff (by decide) hwidth).2 hn
  rw [toList_padded, List.length_append, List.length_replicate]
  omega

/-- A padded number has a digit, if it is only the zero. -/
theorem padded_ne_nil (width n : Nat) : (padded width n).toList ≠ [] := by
  rw [toList_padded]
  exact List.append_ne_nil_of_right_ne_nil _ Nat.toDigits_ne_nil

/-- A padded number is a run of digits. -/
theorem takeWhile_padded (width n : Nat) :
    (padded width n).toList.takeWhile Char.isDigit = (padded width n).toList := by
  have hnone : ∀ c ∈ ([] : List Char).head?, c.isDigit = false := nofun
  have hdigits : ∀ c ∈ (padded width n).toList, c.isDigit = true := fun _ => isDigit_of_mem_padded
  have hall := (Text.takeWhile_append_of_stop hdigits hnone).1
  rwa [List.append_nil] at hall

/-- A mark stands before the text behind it. -/
theorem toList_mark_append {mark : String} {c : Char} (h : mark.toList = [c]) (text : String) :
    (mark ++ text).toList = c :: text.toList := by
  rw [String.toList_append, h, List.singleton_append]

/-! ## Readers -/

namespace Reader

variable {α β : Type} {reader : Reader α} {next : α → Reader β} {cs rest digits : List Char} {a : α}
  {c : Char} {n least greatest width : Nat} {y : Int}

/-- A reader goes on where the one before it has stopped. -/
theorem run_bind_of (h : reader.run cs = .ok (a, rest)) :
    (reader >>= next).run cs = (next a).run rest := by
  rw [StateT.run_bind, h]
  rfl

/-- A reader that asks for the text gets what is left of it. -/
theorem run_get_bind (next : List Char → Reader α) (cs : List Char) :
    (get >>= next).run cs = (next cs).run cs := rfl

/-- Setting the text goes on with this text. -/
theorem run_set_bind (rest : List Char) (next : Unit → Reader α) :
    (set rest >>= next).run cs = (next ()).run rest := rfl

/-- Changing the text goes on with the changed text. -/
theorem run_modify_bind (f : List Char → List Char) (next : Unit → Reader α) :
    (modify f >>= next).run cs = (next ()).run (f cs) := rfl

/-- A character that is expected is taken. -/
theorem run_literal (c : Char) (rest : List Char) :
    (literal c).run (c :: rest) = .ok ((), rest) := by
  show (if c = c then (set rest : Reader Unit) else throw .invalid).run (c :: rest) = _
  rw [if_pos rfl]
  rfl

/-- There are no blanks before a text that starts with none. -/
theorem run_blanks (h : ∀ c ∈ cs.head?, Text.isBlank c = false) : blanks.run cs = .ok ((), cs) := by
  have hnone : ∀ c ∈ ([] : List Char), Text.isBlank c = true := nofun
  have hdrop : cs.dropWhile Text.isBlank = cs := (Text.takeWhile_append_of_stop hnone h).2
  show Except.ok ((), cs.dropWhile Text.isBlank) = _
  rw [hdrop]

/-- The digits that are taken are those of the number. -/
theorem run_number_of (width : Option Nat) (rest : List Char) (hne : digits ≠ [])
    (htaken : (width.elim (digits ++ rest) (digits ++ rest).take).takeWhile Char.isDigit = digits) :
    (number width).run (digits ++ rest) = .ok (digitsValue digits, rest) := by
  obtain ⟨first, others, rfl⟩ := List.exists_cons_of_ne_nil hne
  have hdrop : (first :: others ++ rest).drop (first :: others).length = rest := List.drop_left
  unfold number
  cases width with
  | none | some n =>
    simp only [Option.elim] at htaken
    simp only [StateT.run_bind, StateT.run_get, pure_bind, htaken, hdrop]
    rfl

/-- So many digits are taken, whatever follows them. -/
theorem run_number_padded (hwidth : 0 < width) (hn : n < 10 ^ width) (rest : List Char) :
    (number (some width)).run ((padded width n).toList ++ rest) = .ok (n, rest) := by
  have htake : ((padded width n).toList ++ rest).take width = (padded width n).toList :=
    List.take_left' (length_padded hwidth hn)
  have hnumber := run_number_of (some width) rest (padded_ne_nil width n) (by
    rw [Option.elim_some, htake, takeWhile_padded])
  rwa [digitsValue_padded] at hnumber

/-- Where no digit follows, all digits are taken. -/
theorem run_number_none (hrest : ∀ c ∈ rest.head?, c.isDigit = false) (width n : Nat) :
    (number none).run ((padded width n).toList ++ rest) = .ok (n, rest) := by
  have hdigits : ∀ c ∈ (padded width n).toList, c.isDigit = true := fun _ => isDigit_of_mem_padded
  have htaken := (Text.takeWhile_append_of_stop hdigits hrest).1
  have hnumber := run_number_of none rest (padded_ne_nil width n) htaken
  rwa [digitsValue_padded] at hnumber

/-- A field within its bounds is read. -/
theorem run_field (hleast : least ≤ n) (hgreatest : n ≤ greatest) (hn : n < 10 ^ 2)
    (rest : List Char) :
    (field least greatest).run ((padded 2 n).toList ++ rest) = .ok (n, rest) := by
  have hblank : ∀ c ∈ ((padded 2 n).toList ++ rest).head?, Text.isBlank c = false := by
    intro c hc
    rw [List.head?_append_of_ne_nil _ (padded_ne_nil 2 n)] at hc
    exact isBlank_of_isDigit (isDigit_of_mem_padded (List.mem_of_mem_head? hc))
  rw [field, run_bind_of (run_blanks hblank), run_bind_of (run_number_padded (by decide) hn rest),
    if_pos ⟨hleast, hgreatest⟩]
  rfl

/-- A year of four digits needs no sign. -/
theorem run_year_padded (hn : n < 10 ^ 4) (rest : List Char) :
    year.run ((padded 4 n).toList ++ rest) = .ok ((n : Int), rest) := by
  have hnumber := run_number_padded (by decide) hn rest
  obtain ⟨first, others, hdigits⟩ := List.exists_cons_of_ne_nil (padded_ne_nil 4 n)
  have hdigit : first.isDigit = true :=
    isDigit_of_mem_padded (by rw [hdigits]; exact List.mem_cons_self)
  rw [hdigits] at hnumber ⊢
  have hblank : ∀ c ∈ (first :: others ++ rest).head?, Text.isBlank c = false := by
    rintro c ⟨⟩
    exact isBlank_of_isDigit hdigit
  -- The text starts with a digit, and so with no blank and no sign.
  rw [year, run_bind_of (run_blanks hblank)]
  dsimp only
  rw [run_get_bind]
  split
  · next h =>
    obtain ⟨rfl, -⟩ := List.cons.inj h
    exact absurd hdigit (by decide)
  · next h =>
    obtain ⟨rfl, -⟩ := List.cons.inj h
    exact absurd hdigit (by decide)
  · rw [run_bind_of hnumber]
    rfl

/-- A year that does not fit into four digits is read behind its sign. -/
theorem run_year_signed {mark : Char} {sign : Int} (hmark : (mark, sign) ∈ [('-', -1), ('+', 1)])
    (hy : y = sign * n) (hbounds : -2147483648 ≤ y ∧ y ≤ 2147483647)
    (hrest : ∀ c ∈ rest.head?, c.isDigit = false) :
    year.run (mark :: ((padded 4 n).toList ++ rest)) = .ok (y, rest) := by
  have hnumber := run_number_none hrest 4 n
  generalize (padded 4 n).toList ++ rest = text at *
  -- Behind the sign stands the number by itself.
  have hsigned : (modify List.tail >>= fun _ => number none >>= fun n => pure (sign * (n : Int)) :
      Reader Int).run (mark :: text) = .ok (y, rest) := by
    rw [run_modify_bind, List.tail_cons, run_bind_of hnumber, hy]
    rfl
  have hblank : ∀ c ∈ (mark :: text).head?, Text.isBlank c = false := by
    rintro c ⟨⟩
    simp only [List.mem_cons, Prod.mk.injEq, List.not_mem_nil, or_false] at hmark
    rcases hmark with ⟨rfl, -⟩ | ⟨rfl, -⟩ <;> decide
  rw [year, run_bind_of (run_blanks hblank)]
  dsimp only
  rw [run_get_bind]
  simp only [List.mem_cons, Prod.mk.injEq, List.not_mem_nil, or_false] at hmark
  -- The reading is the same behind either sign, but for the sign of the year.
  rcases hmark with ⟨rfl, rfl⟩ | ⟨rfl, rfl⟩
  · refine (run_bind_of hsigned).trans ?_
    rw [if_pos hbounds]
    rfl
  · refine (run_bind_of hsigned).trans ?_
    rw [if_pos hbounds]
    rfl

/-- A year is read up to what is no digit, with its sign. -/
theorem run_year (hleast : minYear ≤ y) (hgreatest : y ≤ maxYear)
    (hrest : ∀ c ∈ rest.head?, c.isDigit = false) :
    year.run ((yearText y).toList ++ rest) = .ok (y, rest) := by
  have hbounds : -2147483648 ≤ y ∧ y ≤ 2147483647 := by
    unfold minYear at hleast
    unfold maxYear at hgreatest
    omega
  -- A year of four digits has no sign; all others have the one or the other.
  unfold yearText
  split
  · next hsmall =>
    have hyear := run_year_padded (n := y.toNat) (by omega) rest
    rwa [Int.toNat_of_nonneg hsmall.1] at hyear
  · split
    · next hnegative =>
      rw [toList_mark_append (rfl : "-".toList = ['-']), List.cons_append]
      exact run_year_signed (.head _) (by omega) hbounds hrest
    · next hnegative =>
      rw [toList_mark_append (rfl : "+".toList = ['+']), List.cons_append]
      exact run_year_signed (.tail _ (.head _)) (by omega) hbounds hrest

/-- A date is read, whatever follows it. -/
theorem run_ymd (d : Date) (rest : List Char) :
    ymd.run (d.toText.toList ++ rest) = .ok ((d.year, d.month, d.day), rest) := by
  obtain ⟨hleast, hgreatest, hmonth, hmonth', hday, hday'⟩ := d.valid
  have hdays : daysInMonth d.year d.month ≤ 31 := by
    unfold daysInMonth
    split <;> (try split) <;> omega
  have htext : d.toText.toList ++ rest = (yearText d.year).toList ++ '-' ::
      ((padded 2 d.month).toList ++ '-' :: ((padded 2 d.day).toList ++ rest)) := by
    simp [Date.toText]
  -- A number ends at the dash behind it.
  have hdash : ∀ cs : List Char, ∀ c ∈ ('-' :: cs).head?, c.isDigit = false := by
    rintro cs c ⟨⟩
    rfl
  rw [htext, ymd, run_bind_of (run_year hleast hgreatest (hdash _)),
    run_bind_of (run_literal '-' _), run_bind_of (run_field hmonth hmonth' (by omega) _),
    run_bind_of (run_literal '-' _), run_bind_of (run_field hday (by omega) (by omega) _)]
  rfl

/-- The digits behind the point count by their places. -/
theorem run_fraction_padded (width n : Nat) (hwidth : 0 < width) (hwidth' : width ≤ 9)
    (hn : n < 10 ^ width) :
    fraction.run ('.' :: (padded width n).toList) = .ok (n * 10 ^ (9 - width), []) := by
  have hlength := length_padded hwidth hn
  have hdigits : ((padded width n).toList.take 9).takeWhile Char.isDigit =
      (padded width n).toList := by
    rw [List.take_of_length_le (by omega), takeWhile_padded]
  have hnumber := run_number_of (some 9) [] (padded_ne_nil width n) (by
    rw [List.append_nil, Option.elim_some, hdigits])
  rw [digitsValue_padded, List.append_nil] at hnumber
  generalize (padded width n).toList = digits at *
  rw [fraction, run_get_bind]
  refine (run_set_bind digits _).trans ?_
  dsimp only
  rw [run_bind_of hnumber, hdigits, hlength]
  rfl

/-- The fraction that is written is exact. -/
theorem run_fraction (nanosecond : Nat) :
    fraction.run (Fraction.exact.text nanosecond).toList =
      .ok (nanosecond % 1000000000, []) := by
  have hnanos : nanosecond % 1000000000 < 1000000000 := Nat.mod_lt _ (by decide)
  unfold Fraction.text
  generalize nanosecond % 1000000000 = nanos at *
  dsimp only
  -- As many digits are written as the nanoseconds need: none, three, six or nine.
  split
  · next hzero =>
    rw [hzero]
    rfl
  · split
    · next hmillis =>
      have hread := run_fraction_padded 3 (nanos / 1000000) (by decide) (by decide) (by omega)
      have hexact : nanos / 1000000 * 10 ^ (9 - 3) = nanos := by omega
      rw [toList_mark_append (rfl : ".".toList = ['.'])]
      rw [hexact] at hread
      exact hread
    · split
      · next hmicros =>
        have hread := run_fraction_padded 6 (nanos / 1000) (by decide) (by decide) (by omega)
        have hexact : nanos / 1000 * 10 ^ (9 - 6) = nanos := by omega
        rw [toList_mark_append (rfl : ".".toList = ['.'])]
        rw [hexact] at hread
        exact hread
      · have hread := run_fraction_padded 9 nanos (by decide) (by decide) (by omega)
        rw [toList_mark_append (rfl : ".".toList = ['.'])]
        rwa [Nat.sub_self, Nat.pow_zero, Nat.mul_one] at hread

/-- A leap second is written as second 60. -/
theorem leap_seconds (t : Timestamp) :
    leap (t.second + t.nanosecond / 1000000000) (t.nanosecond % 1000000000) =
      (t.second, t.nanosecond) := by
  obtain ⟨-, -, hsecond, hnanos, hleap⟩ := t.valid
  unfold leap
  -- A leap second is written as the sixtieth, and is kept as a second more of nanoseconds.
  split
  · next hsixty =>
    have hlast := hleap (by omega)
    rw [Prod.mk.injEq]
    omega
  · next hsixty =>
    have hnone : t.nanosecond < 1000000000 := by
      by_contra hlarge
      have hlast := hleap (by omega)
      omega
    rw [Nat.div_eq_of_lt hnone, Nat.mod_eq_of_lt hnone]
    rfl

/-- A text that a reader takes as a whole is read. -/
theorem whole_eq {text : String} (h : reader.run text.toList = .ok (a, [])) :
    whole reader text = .ok a := by
  rw [whole, h]
  rfl

end Reader

end Calendar

open Calendar Reader

/-- A date is read back from its text. -/
theorem Date.read_toText (d : Date) : Date.read d.toText = .ok d := by
  have hfields := run_ymd d []
  rw [List.append_nil] at hfields
  refine Outcome.bind_eq_ok.2 ⟨_, whole_eq hfields, ?_⟩
  dsimp only
  rw [Date.of?_fields]
  rfl

/-- A timestamp is read back from its exact text. -/
theorem Timestamp.read_toText (t : Timestamp) :
    Timestamp.read 'T' (t.toText 'T' .exact) = .ok t := by
  obtain ⟨hhour, hminute, hsecond, hnanos, hleap⟩ := t.valid
  have htext : (t.toText 'T' .exact).toList = t.date.toText.toList ++ 'T' ::
      ((padded 2 t.hour).toList ++ ':' :: ((padded 2 t.minute).toList ++ ':' ::
        ((padded 2 (t.second + t.nanosecond / 1000000000)).toList ++
          (Fraction.exact.text t.nanosecond).toList))) := by
    simp [Timestamp.toText]
  have hsecond' : t.second + t.nanosecond / 1000000000 ≤ 60 := by omega
  unfold Timestamp.read
  dsimp only
  -- The fields are read one after the other, and the date and time are put together from them.
  refine Outcome.bind_eq_ok.2 ⟨((t.date.year, t.date.month, t.date.day), t.hour, t.minute,
    leap (t.second + t.nanosecond / 1000000000) (t.nanosecond % 1000000000)), whole_eq ?_, ?_⟩
  · rw [htext, run_bind_of (run_ymd t.date _), if_neg (by decide), run_bind_of (run_literal 'T' _),
      run_bind_of (run_field (Nat.zero_le _) (by omega) (by omega) _),
      run_bind_of (run_literal ':' _),
      run_bind_of (run_field (Nat.zero_le _) (by omega) (by omega) _),
      run_bind_of (run_literal ':' _),
      run_bind_of (run_field (Nat.zero_le _) hsecond' (by omega) _),
      run_bind_of (run_fraction t.nanosecond)]
    rfl
  · rw [leap_seconds]
    dsimp only
    rw [Date.of?_fields]
    dsimp only
    rw [Timestamp.of?_fields]
    rfl

end SqlTemplate
