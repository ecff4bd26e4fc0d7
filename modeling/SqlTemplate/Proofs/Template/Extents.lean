import SqlTemplate.Proofs.Engine.TestValues
import SqlTemplate.Text.Search

/-!
# How far a test value goes

What stands behind a variable is read as a quoted string, as a list in parentheses or as a word.
`TestValue.Extent` says where each of them ends without reading on from character to character: a
string at the quote that is not doubled, a list at the first parenthesis outside strings at which
the parentheses balance (`TestValue.Closes`), a word at the first place where something stops it
(`TestValue.Stops`). `TestValue.Unclosed` are the texts in which a list does not end. The main
statement, `Token.testValue_extent`, is that test values are read so, and that a variable is
followed by such a test value.

A list is read with strings skipped as a whole, whereas the balance is a matter of one character
after the other. `closing?` reads a list in this way, a doubled quote leaving a string and entering
it again (`listTail?_eq`).
-/

namespace SqlTemplate

namespace TestValue

open Template (quotedTail listTail?)
open Text (doubleQuotes)

/-! ## Strings, parentheses and words -/

/-- Quotes around a text in which every quote is doubled. -/
def IsString (p : List Char) : Prop :=
  ∃ inner, p = '\'' :: (doubleQuotes inner ++ ['\''])

/-- Inside a string behind one more character; a quote leads in and out. -/
def toggled (inside : Bool) (c : Char) : Bool :=
  if c = '\'' then !inside else inside

/-- Inside a string behind a text. -/
def insideAfter (inside : Bool) (cs : List Char) : Bool :=
  cs.foldl toggled inside

/-- What a character adds to the parentheses that are open. -/
def weight (inside : Bool) (c : Char) : Int :=
  if inside then 0 else if c = '(' then 1 else if c = ')' then -1 else 0

/-- How many more parentheses a text opens than it closes, those in strings left out. -/
def depth (inside : Bool) : List Char → Int
  | [] => 0
  | c :: cs => weight inside c + depth (toggled inside c) cs

/-- The text ends with a closing parenthesis outside strings and at balance, where `level`
parentheses are open before it. -/
def ClosesFrom (inside : Bool) (level : Int) (p : List Char) : Prop :=
  ∃ before, p = before ++ [')'] ∧ insideAfter inside before = false ∧ level + depth inside p = 0

/-- The text ends with a closing parenthesis outside strings at which its parentheses balance. -/
def Closes (p : List Char) : Prop :=
  ∃ before, p = before ++ [')'] ∧ insideAfter false before = false ∧ depth false p = 0

/-- No word goes on with this text. -/
def Stops (rest : List Char) : Prop :=
  rest = [] ∨
    (∃ c ∈ rest.head?, Text.isAsciiBlank c = true ∨ c = ',' ∨ c = ')' ∨ c = ';') ∨
    ['/', '*'] <+: rest ∨ ['-', '-'] <+: rest

/-- The text starts with this test value and goes on with `rest`. -/
inductive Extent : List Char → TestValue → List Char → Prop
  /-- A string, which is closed by the first quote that is not doubled. -/
  | string {p rest : List Char} (hp : IsString p) (hend : rest.head? ≠ some '\'')
      (hfirst : ∀ q more, p ++ rest = q ++ more → IsString q → more.head? ≠ some '\'' →
        p.length ≤ q.length) :
      Extent (p ++ rest) ⟨String.ofList p, true, false⟩ rest
  /-- A string that is not closed. -/
  | openString {cs : List Char} (hstart : cs.head? = some '\'')
      (hnever : ∀ q more, cs = q ++ more → IsString q → more.head? = some '\'') :
      Extent cs ⟨String.ofList cs, true, false⟩ []
  /-- A list, which is closed by the first parenthesis at balance, with no comment before it. -/
  | list {p rest : List Char} {quoted : Bool} (hstart : p.head? = some '(') (hp : Closes p)
      (hfirst : ∀ q, q <+: p → Closes q → q = p)
      (hcomment : ∀ before after, p = before ++ '/' :: '*' :: after →
        insideAfter false before = true)
      (hquoted : quoted = true ↔ ∃ blanks more, p = '(' :: blanks ++ '\'' :: more ∧
        ∀ c ∈ blanks, Text.isBlank c = true) :
      Extent (p ++ rest) ⟨String.ofList p, quoted, true⟩ rest
  /-- A word, which may be empty. -/
  | word {w rest : List Char} (hstart : ∀ c ∈ (w ++ rest).head?, c ≠ '\'' ∧ c ≠ '(')
      (hend : Stops rest) (hfirst : ∀ a b, w = a ++ b → b ≠ [] → ¬Stops (b ++ rest)) :
      Extent (w ++ rest) ⟨String.ofList w, false, false⟩ rest

/-- The text starts with a list, and a comment outside strings or the end of the text comes before
the parenthesis that would close it. -/
def Unclosed (cs : List Char) : Prop :=
  cs.head? = some '(' ∧
    ((∃ before after, cs = before ++ '/' :: '*' :: after ∧ insideAfter false before = false ∧
      ∀ q, q <+: before → ¬Closes q) ∨ ∀ q, q <+: cs → ¬Closes q)

variable {inside : Bool} {level : Int} {c : Char} {cs p q rest tail : List Char}

/-- Where no parenthesis is open before it, a text closes by itself. -/
theorem closesFrom_zero : ClosesFrom false 0 p ↔ Closes p := by
  simp only [ClosesFrom, Closes, Int.zero_add]

/-- Only parentheses count. -/
theorem weight_of_ne (hopen : c ≠ '(') (hclose : c ≠ ')') : weight inside c = 0 := by
  simp [weight, hopen, hclose]

/-- The empty text closes nothing. -/
theorem not_closesFrom_nil : ¬ClosesFrom inside level [] := by
  rintro ⟨before, hnil, -⟩
  exact List.cons_ne_nil _ _ (List.append_eq_nil_iff.1 hnil.symm).2

/-- A text is closed by its first character, or the rest of it is closed. -/
theorem closesFrom_cons_iff : ClosesFrom inside level (c :: q) ↔
    (q = [] ∧ c = ')' ∧ inside = false ∧ level = 1) ∨
      ClosesFrom (toggled inside c) (level + weight inside c) q := by
  constructor
  · rintro ⟨before, hq, hinside, hlevel⟩
    -- The last parenthesis is the first character, or it stands in the rest.
    cases before with
    | nil =>
      obtain ⟨rfl, rfl⟩ := List.cons.inj hq
      obtain rfl : inside = false := hinside
      simp [depth, weight] at hlevel
      exact .inl ⟨rfl, rfl, rfl, by omega⟩
    | cons d before =>
      obtain ⟨rfl, rfl⟩ := List.cons.inj hq
      refine .inr ⟨before, rfl, hinside, ?_⟩
      rw [depth] at hlevel
      omega
  · rintro (⟨rfl, rfl, rfl, rfl⟩ | ⟨before, rfl, hinside, hlevel⟩)
    · exact ⟨[], rfl, rfl, by decide⟩
    · refine ⟨c :: before, rfl, hinside, ?_⟩
      rw [depth]
      omega

/-! ## Strings -/

/-- A string ends at a quote that is not doubled, or else with the text. -/
theorem quotedTail_cases (cs : List Char) :
    (∃ inner rest, quotedTail cs = (doubleQuotes inner ++ ['\''], rest) ∧ rest.head? ≠ some '\'') ∨
      (quotedTail cs = (cs, []) ∧
        ∀ inner rest, cs = doubleQuotes inner ++ '\'' :: rest → rest.head? = some '\'') := by
  fun_induction quotedTail cs with
  | case1 =>
    refine .inr ⟨rfl, fun inner rest h => ?_⟩
    exact absurd (List.append_eq_nil_iff.1 h.symm).2 (List.cons_ne_nil _ _)
  | case2 cs tail rest heq ih =>
    rw [heq] at ih
    -- Two quotes stand for one, and the string goes on behind them.
    rcases ih with ⟨inner, rest', hread, hend⟩ | ⟨hread, hnever⟩
    · obtain ⟨rfl, rfl⟩ := Prod.mk.inj hread
      exact .inl ⟨'\'' :: inner, rest, rfl, hend⟩
    · obtain ⟨rfl, rfl⟩ := Prod.mk.inj hread
      refine .inr ⟨rfl, fun inner rest h => ?_⟩
      cases inner with
      | nil =>
        obtain rfl : '\'' :: tail = rest := (List.cons.inj h).2
        rfl
      | cons d inner =>
        by_cases hd : d = '\''
        · subst hd
          exact hnever inner rest (List.cons.inj (List.cons.inj h).2).2
        · rw [Text.doubleQuotes_cons_of_ne hd] at h
          exact absurd (List.cons.inj h).1.symm hd
  | case3 cs hquote =>
    refine .inl ⟨[], cs, rfl, fun h => ?_⟩
    obtain ⟨more, rfl⟩ := List.head?_eq_some_iff.1 h
    exact hquote more rfl
  | case4 c cs hdouble hquote tail rest heq ih =>
    rw [heq] at ih
    rcases ih with ⟨inner, rest', hread, hend⟩ | ⟨hread, hnever⟩
    · obtain ⟨rfl, rfl⟩ := Prod.mk.inj hread
      refine .inl ⟨c :: inner, rest, ?_, hend⟩
      rw [Text.doubleQuotes_cons_of_ne hquote]
      rfl
    · obtain ⟨rfl, rfl⟩ := Prod.mk.inj hread
      refine .inr ⟨rfl, fun inner rest h => ?_⟩
      cases inner with
      | nil => exact absurd (List.cons.inj h).1 hquote
      | cons d inner =>
        by_cases hd : d = '\''
        · subst hd
          exact absurd (List.cons.inj h).1 hquote
        · rw [Text.doubleQuotes_cons_of_ne hd] at h
          exact hnever inner rest (List.cons.inj h).2

/-! ## Lists, one character after the other -/

/-- The rest of a list up to and with the parenthesis that closes it, where `level` parentheses are
open, and what follows it. -/
def closing? (inside : Bool) (level : Int) : List Char → Option (List Char × List Char)
  | [] => none
  | c :: cs =>
    if inside = false ∧ c = '/' ∧ cs.head? = some '*' then none
    else if inside = false ∧ c = ')' ∧ level = 1 then some ([c], cs)
    else
      (closing? (toggled inside c) (level + weight inside c) cs).map fun (tail, rest) =>
        (c :: tail, rest)

/-- A character that neither begins a comment nor closes the list is passed over. -/
theorem closing?_cons (hcomment : inside = false → c = '/' → cs.head? ≠ some '*')
    (hclose : inside = false → c = ')' → level ≠ 1) : closing? inside level (c :: cs) =
      (closing? (toggled inside c) (level + weight inside c) cs).map fun (tail, rest) =>
        (c :: tail, rest) := by
  rw [closing?, if_neg fun h => hcomment h.1 h.2.1 h.2.2, if_neg fun h => hclose h.1 h.2.1 h.2.2]

/-- A string is passed over. -/
theorem closing?_inside (level : Int) (cs : List Char) :
    closing? true level cs = (closing? false level (quotedTail cs).2).map fun (tail, rest) =>
      ((quotedTail cs).1 ++ tail, rest) := by
  fun_induction quotedTail cs generalizing level with
  | case1 => rfl
  | case2 cs tail rest heq ih =>
    rw [heq] at ih
    simp [closing?, toggled, weight, ih, Function.comp_def]
  | case3 cs hquote => simp [closing?, toggled, weight]
  | case4 c cs hdouble hquote tail rest heq ih =>
    rw [heq] at ih
    -- The string goes on behind the character, at the same level.
    have htoggled : toggled true c = true := if_neg hquote
    have hstep : closing? true level (c :: cs) = _ := closing?_cons (by simp) (by simp)
    rw [hstep, htoggled, ih, Option.map_map]
    simp [weight, Function.comp_def]

/-- The rest of a list is read as if one character came after the other. -/
theorem listTail?_eq (nested : Nat) (cs : List Char) :
    listTail? nested cs = closing? false (nested + 1) cs := by
  fun_induction listTail? nested cs with
  | case1 => rfl
  | case2 nested cs ih =>
    simp [closing?, toggled, weight, ih, closing?_inside, Function.comp_def]
  | case3 => simp [closing?]
  | case4 nested cs ih =>
    rw [ih, closing?_cons (by simp) (by simp)]
    rfl
  | case5 => rfl
  | case6 cs nested ih =>
    have hlevel : ((nested + 1 : Nat) + 1 : Int) + weight false ')' = nested + 1 := by
      show ((nested + 1 : Nat) + 1 : Int) + -1 = nested + 1
      omega
    rw [ih, closing?_cons (by simp) (by omega), hlevel]
    rfl
  -- A plain character changes neither the level nor the side of the quotes.
  | case7 nested c cs hquote hcomment hopen hclose ih =>
    have hlevel : (nested + 1 : Int) + weight false c = nested + 1 := by
      rw [weight_of_ne hopen hclose, Int.add_zero]
    have htoggled : toggled false c = false := if_neg hquote
    have hhead : c = '/' → cs.head? ≠ some '*' := by
      rintro hc hstar
      obtain ⟨more, hmore⟩ := List.head?_eq_some_iff.1 hstar
      exact hcomment more hc hmore
    rw [ih, closing?_cons (fun _ => hhead) (fun _ hc => absurd hc hclose), hlevel, htoggled]

/-- A list that is closed ends at the first parenthesis at balance, with no comment before it. -/
theorem closing?_eq_some (h : closing? inside level cs = some (tail, rest)) :
    cs = tail ++ rest ∧ ClosesFrom inside level tail ∧
      (∀ q, q <+: tail → ClosesFrom inside level q → q = tail) ∧
      ∀ before after, tail = before ++ '/' :: '*' :: after →
        insideAfter inside before = true := by
  induction cs generalizing inside level tail with
  | nil => nomatch h
  | cons c cs ih =>
    rw [closing?] at h
    split_ifs at h with hcomment hclose
    -- The first character closes the text.
    · obtain ⟨rfl, rfl⟩ := Prod.mk.inj (Option.some.inj h)
      obtain ⟨rfl, rfl, rfl⟩ := hclose
      refine ⟨rfl, closesFrom_cons_iff.2 (.inl ⟨rfl, rfl, rfl, rfl⟩), ?_, ?_⟩
      · intro q hprefix hcloses
        rcases List.prefix_cons_iff.1 hprefix with rfl | ⟨q, rfl, hq⟩
        · exact absurd hcloses not_closesFrom_nil
        · rw [List.prefix_nil.1 hq]
      · intro before after hbefore
        have hlength := congrArg List.length hbefore
        simp at hlength
        omega
    -- It does not, so every property is that of the rest at the level behind it.
    · obtain ⟨⟨tail, _⟩, hrest, heq⟩ := Option.map_eq_some_iff.1 h
      obtain ⟨rfl, rfl⟩ := Prod.mk.inj heq
      obtain ⟨rfl, hcloses, hfirst, hinside⟩ := ih hrest
      refine ⟨rfl, closesFrom_cons_iff.2 (.inr hcloses), ?_, ?_⟩
      · intro q hprefix hcloses
        rcases List.prefix_cons_iff.1 hprefix with rfl | ⟨q, rfl, hq⟩
        · exact absurd hcloses not_closesFrom_nil
        · rcases closesFrom_cons_iff.1 hcloses with ⟨-, hc, hin, hlevel⟩ | hcloses
          · exact absurd ⟨hin, hc, hlevel⟩ hclose
          · rw [hfirst q hq hcloses]
      · intro before after hbefore
        cases before with
        | nil =>
          obtain ⟨rfl, rfl⟩ := List.cons.inj hbefore
          exact eq_true_of_ne_false fun hin => hcomment ⟨hin, rfl, rfl⟩
        | cons d before =>
          obtain ⟨rfl, rfl⟩ := List.cons.inj hbefore
          exact hinside before after rfl

/-- A list that is not closed has a comment before any parenthesis at balance, or has none. -/
theorem closing?_eq_none (h : closing? inside level cs = none) :
    (∃ before after, cs = before ++ '/' :: '*' :: after ∧ insideAfter inside before = false ∧
      ∀ q, q <+: before → ¬ClosesFrom inside level q) ∨
      ∀ q, q <+: cs → ¬ClosesFrom inside level q := by
  induction cs generalizing inside level with
  | nil =>
    refine .inr fun q hq => ?_
    rw [List.prefix_nil.1 hq]
    exact not_closesFrom_nil
  | cons c cs ih =>
    rw [closing?] at h
    split_ifs at h with hcomment hclose
    -- A comment starts at once, outside a string.
    · obtain ⟨rfl, rfl, hstar⟩ := hcomment
      obtain ⟨after, rfl⟩ := List.head?_eq_some_iff.1 hstar
      refine .inl ⟨[], after, rfl, rfl, fun q hq => ?_⟩
      rw [List.prefix_nil.1 hq]
      exact not_closesFrom_nil
    · -- What closes the text with its first character closes the rest without it.
      have hcons : ∀ {before : List Char},
          (∀ q, q <+: before → ¬ClosesFrom (toggled inside c) (level + weight inside c) q) →
          ∀ q, q <+: c :: before → ¬ClosesFrom inside level q := by
        intro before hbefore q hprefix hcloses
        rcases List.prefix_cons_iff.1 hprefix with rfl | ⟨q, rfl, hq⟩
        · exact not_closesFrom_nil hcloses
        · rcases closesFrom_cons_iff.1 hcloses with ⟨-, hc, hin, hlevel⟩ | hcloses
          · exact hclose ⟨hin, hc, hlevel⟩
          · exact hbefore q hq hcloses
      rcases ih (Option.map_eq_none_iff.1 h) with ⟨before, after, rfl, hin, hbefore⟩ | hnever
      · exact .inl ⟨c :: before, after, rfl, hin, hcons hbefore⟩
      · exact .inr (hcons hnever)

/-- Parentheses stay open until the list is closed. -/
theorem depth_pos (hlevel : 0 < level) (h : ∀ p, p <+: q → ¬ClosesFrom inside level p) :
    0 < level + depth inside q := by
  induction q generalizing inside level with
  | nil => simpa [depth] using hlevel
  | cons c q ih =>
    -- One character lowers the level by one at most, and to zero only by closing the text.
    have hweight : 0 < level + weight inside c := by
      have hclose : ¬(c = ')' ∧ inside = false ∧ level = 1) := by
        intro hc
        have hfirst : [c] <+: c :: q := (List.prefix_cons_inj c).2 List.nil_prefix
        exact h [c] hfirst (closesFrom_cons_iff.2 (.inl ⟨rfl, hc⟩))
      unfold weight
      split_ifs with hin hopen hc
      · omega
      · omega
      · have : level ≠ 1 := fun hone => hclose ⟨hc, eq_false_of_ne_true hin, hone⟩
        omega
      · omega
    rw [depth, ← Int.add_assoc]
    refine ih hweight fun p hp hp' => ?_
    exact h (c :: p) ((List.prefix_cons_inj c).2 hp) (closesFrom_cons_iff.2 (.inr hp'))

/-! ## Words -/

/-- A word ends where something stops it. -/
theorem endsWord_iff : endsWord rest = true ↔ Stops rest := by
  unfold Stops
  by_cases hcomment : ['/', '*'] <+: rest
  · obtain ⟨more, rfl⟩ := hcomment
    exact iff_of_true rfl (.inr (.inr (.inl ⟨more, rfl⟩)))
  by_cases hline : ['-', '-'] <+: rest
  · obtain ⟨more, rfl⟩ := hline
    exact iff_of_true rfl (.inr (.inr (.inr ⟨more, rfl⟩)))
  cases rest with
  | nil => exact iff_of_true rfl (.inl rfl)
  | cons c rest =>
    -- No comment starts the text, so that its first character decides.
    rw [endsWord_cons]
    · simp [hcomment, hline, or_assoc]
    · rintro more rfl rfl
      exact hcomment ⟨more, rfl⟩
    · rintro more rfl rfl
      exact hline ⟨more, rfl⟩

/-- What is left behind a word stops it. -/
theorem stops_word (cs : List Char) : Stops (word cs).2 := by
  induction cs with
  | nil => exact .inl rfl
  | cons c cs ih =>
    rw [word]
    split_ifs with hends
    · exact endsWord_iff.1 hends
    · exact ih

/-- A word runs up to the first place where something stops it. -/
theorem not_stops_word {a b : List Char} (h : (word cs).1 = a ++ b) (hb : b ≠ []) :
    ¬Stops (b ++ (word cs).2) := by
  induction cs generalizing a with
  | nil => exact absurd (List.append_eq_nil_iff.1 h.symm).2 hb
  | cons c cs ih =>
    rw [word] at h ⊢
    split_ifs at h ⊢ with hends
    · exact absurd (List.append_eq_nil_iff.1 h.symm).2 hb
    -- Either the part starts at this character, which goes on with the word, or behind it.
    · cases a with
      | nil =>
        obtain rfl : c :: (word cs).1 = b := h
        show ¬Stops (c :: ((word cs).1 ++ (word cs).2))
        rwa [word_append, ← endsWord_iff]
      | cons d a => exact ih (List.cons.inj h).2

/-- What nothing stops before its end is a word. -/
theorem word_append_of_stops {w : List Char} (hend : Stops rest)
    (hfirst : ∀ a b, w = a ++ b → b ≠ [] → ¬Stops (b ++ rest)) : word (w ++ rest) = (w, rest) := by
  induction w with
  | nil => exact word_of_endsWord (endsWord_iff.2 hend)
  | cons c w ih =>
    have hstop : ¬endsWord (c :: (w ++ rest)) = true := fun h =>
      hfirst [] (c :: w) rfl (List.cons_ne_nil c w) (endsWord_iff.1 h)
    have hrest := ih fun a b hw => hfirst (c :: a) b (congrArg (c :: ·) hw)
    rw [List.cons_append, word, if_neg hstop, hrest]

/-! ## Test values -/

/-- The list starts with a quote, but for blanks. -/
theorem head?_trimStart_iff : ((Text.trimStart tail).head? == some '\'') = true ↔
    ∃ blanks more, '(' :: tail = '(' :: blanks ++ '\'' :: more ∧
      ∀ c ∈ blanks, Text.isBlank c = true := by
  constructor
  · intro h
    obtain ⟨more, hmore⟩ := List.head?_eq_some_iff.1 (eq_of_beq h)
    have htail := List.takeWhile_append_dropWhile (p := Text.isBlank) (l := tail)
    refine ⟨tail.takeWhile Text.isBlank, more, ?_, fun c hc => List.mem_takeWhile_imp hc⟩
    rw [Text.trimStart] at hmore
    rw [List.cons_append, ← hmore, htail]
  · rintro ⟨blanks, more, htail, hblanks⟩
    obtain rfl : tail = blanks ++ '\'' :: more := (List.cons.inj htail).2
    -- A quote is no blank, so trimming ends there.
    have hstop : ∀ d ∈ ('\'' :: more).head?, Text.isBlank d = false := by
      rintro d hd
      obtain rfl := Option.some.inj hd
      decide
    rw [Text.trimStart, (Text.takeWhile_append_of_stop hblanks hstop).2]
    rfl

/-- Behind the first parenthesis one is open. -/
theorem closes_open_iff : Closes ('(' :: q) ↔ ClosesFrom false 1 q := by
  rw [← closesFrom_zero, closesFrom_cons_iff]
  exact or_iff_right fun h => absurd h.2.1 (by decide)

/-- A list closes at the first parenthesis at balance if the rest of it does. -/
theorem first_open_iff : (∀ q, q <+: '(' :: tail → Closes q → q = '(' :: tail) ↔
    ∀ q, q <+: tail → ClosesFrom false 1 q → q = tail := by
  constructor
  · intro h q hq hcloses
    exact (List.cons.inj (h ('(' :: q) ((List.prefix_cons_inj '(').2 hq)
      (closes_open_iff.2 hcloses))).2
  · intro h q hprefix hcloses
    rcases List.prefix_cons_iff.1 hprefix with rfl | ⟨q, rfl, hq⟩
    · exact absurd (closesFrom_zero.2 hcloses) not_closesFrom_nil
    · rw [h q hq (closes_open_iff.1 hcloses)]

/-- A list has no comment outside strings if the rest of it has none. -/
theorem comment_open_iff : (∀ before after, '(' :: tail = before ++ '/' :: '*' :: after →
      insideAfter false before = true) ↔
    ∀ before after, tail = before ++ '/' :: '*' :: after → insideAfter false before = true := by
  constructor
  · intro h before after htail
    exact h ('(' :: before) after (congrArg ('(' :: ·) htail)
  · intro h before after htail
    cases before with
    | nil => exact absurd (List.cons.inj htail).1 (by decide)
    | cons c before =>
      obtain ⟨rfl, hrest⟩ := List.cons.inj htail
      exact h before after hrest

/-- A string that no quote follows is read up to its closing quote. -/
theorem read?_string (hp : IsString p) (hend : rest.head? ≠ some '\'') :
    read? (p ++ rest) = some (⟨String.ofList p, true, false⟩, rest) := by
  obtain ⟨inner, rfl⟩ := hp
  have hnext : ∀ c ∈ rest.head?, c ≠ '\'' := fun c hc hquote => hend (hquote ▸ hc)
  have hread := quotedTail_doubleQuotes inner hnext
  rw [List.cons_append, List.append_assoc, List.singleton_append, read?, hread]

/-- A string that is not closed is read to the end. -/
theorem read?_openString (hstart : cs.head? = some '\'')
    (hnever : ∀ q more, cs = q ++ more → IsString q → more.head? = some '\'') :
    read? cs = some (⟨String.ofList cs, true, false⟩, []) := by
  obtain ⟨cs, rfl⟩ := List.head?_eq_some_iff.1 hstart
  rcases quotedTail_cases cs with ⟨inner, rest, hread, hend⟩ | ⟨hread, -⟩
  · have happend := Template.quotedTail_append cs
    rw [hread] at happend
    exact absurd (hnever _ rest (congrArg ('\'' :: ·) happend.symm) ⟨inner, rfl⟩) hend
  · rw [read?, hread]

/-- A list is read up to the first parenthesis at balance. -/
theorem closing?_append (hcloses : ClosesFrom inside level tail)
    (hfirst : ∀ q, q <+: tail → ClosesFrom inside level q → q = tail)
    (hcomment : ∀ before after, tail = before ++ '/' :: '*' :: after →
      insideAfter inside before = true) (rest : List Char) :
    closing? inside level (tail ++ rest) = some (tail, rest) := by
  induction tail generalizing inside level with
  | nil => exact absurd hcloses not_closesFrom_nil
  | cons c tail ih =>
    rw [List.cons_append, closing?]
    rcases closesFrom_cons_iff.1 hcloses with ⟨rfl, rfl, rfl, rfl⟩ | hrest
    · rfl
    -- The text is not closed yet, so neither test at its first character succeeds.
    · have htail : tail ≠ [] := by
        rintro rfl
        exact not_closesFrom_nil hrest
      rw [if_neg, if_neg, ih hrest]
      · rfl
      · intro q hq hq'
        exact (List.cons.inj (hfirst (c :: q) ((List.prefix_cons_inj c).2 hq)
          (closesFrom_cons_iff.2 (.inr hq')))).2
      · intro before after hbefore
        exact hcomment (c :: before) after (congrArg (c :: ·) hbefore)
      · rintro ⟨rfl, rfl, rfl⟩
        have hone := hfirst [')'] ((List.prefix_cons_inj ')').2 List.nil_prefix)
          (closesFrom_cons_iff.2 (.inl ⟨rfl, rfl, rfl, rfl⟩))
        exact htail (List.cons.inj hone).2.symm
      · rintro ⟨rfl, rfl, hstar⟩
        rw [List.head?_append_of_ne_nil _ htail] at hstar
        obtain ⟨after, rfl⟩ := List.head?_eq_some_iff.1 hstar
        exact absurd (hcomment [] after rfl) Bool.false_ne_true

/-- A list is read up to the parenthesis that closes it. -/
theorem read?_open (tail : List Char) : read? ('(' :: tail) =
    (closing? false 1 tail).map fun (tail, rest) =>
      (⟨String.ofList ('(' :: tail), (Text.trimStart tail).head? == some '\'', true⟩, rest) := by
  rw [read?, listTail?_eq]
  rfl

/-- What starts with neither a quote nor a parenthesis is read as a word. -/
theorem read?_word (hstart : ∀ c ∈ cs.head?, c ≠ '\'' ∧ c ≠ '(') :
    read? cs = some (⟨String.ofList (word cs).1, false, false⟩, (word cs).2) := by
  rw [read?]
  · rintro more rfl
    exact (hstart _ rfl).1 rfl
  · rintro more rfl
    exact (hstart _ rfl).2 rfl

/-- A test value is read as far as it goes. -/
theorem extent_of_read? {value : TestValue} (h : read? cs = some (value, rest)) :
    Extent cs value rest := by
  have happend := eq_append_of_read? h
  by_cases hquote : cs.head? = some '\''
  · by_cases hnever : ∀ q more, cs = q ++ more → IsString q → more.head? = some '\''
    · rw [read?_openString hquote hnever] at h
      obtain ⟨rfl, rfl⟩ := Prod.mk.inj (Option.some.inj h)
      exact .openString hquote hnever
    · push Not at hnever
      obtain ⟨p, rest', rfl, hp, hend⟩ := hnever
      rw [read?_string hp hend] at h
      obtain ⟨rfl, rfl⟩ := Prod.mk.inj (Option.some.inj h)
      refine .string hp hend fun q more heq hq hmore => ?_
      -- Both strings are what is read, so they are the same.
      have hsame := read?_string hp hend
      rw [heq, read?_string hq hmore] at hsame
      have hpq := (Prod.mk.inj (Option.some.inj hsame)).1
      rw [String.ofList_injective (TestValue.mk.inj hpq).1]
  by_cases hopen : cs.head? = some '('
  · obtain ⟨cs, rfl⟩ := List.head?_eq_some_iff.1 hopen
    rw [read?_open] at h
    obtain ⟨⟨tail, rest⟩, hclosing, heq⟩ := Option.map_eq_some_iff.1 h
    obtain ⟨rfl, rfl⟩ := Prod.mk.inj heq
    obtain ⟨rfl, hcloses, hfirst, hcomment⟩ := closing?_eq_some hclosing
    exact .list rfl (closes_open_iff.2 hcloses) (first_open_iff.2 hfirst)
      (comment_open_iff.2 hcomment) head?_trimStart_iff
  · have hstart : ∀ c ∈ cs.head?, c ≠ '\'' ∧ c ≠ '(' := by
      rintro c hc
      exact ⟨fun h => hquote (h ▸ hc), fun h => hopen (h ▸ hc)⟩
    rw [read?_word hstart] at h
    obtain ⟨rfl, rfl⟩ := Prod.mk.inj (Option.some.inj h)
    have hword : Extent ((word cs).1 ++ (word cs).2) ⟨String.ofList (word cs).1, false, false⟩
        (word cs).2 :=
      .word (by rwa [word_append]) (stops_word cs) fun a b hab => not_stops_word hab
    rwa [word_append] at hword

/-- A text has a test value of the extent that is read, and only that one. -/
theorem read?_eq_some_iff {value : TestValue} :
    read? cs = some (value, rest) ↔ Extent cs value rest := by
  refine ⟨extent_of_read?, fun h => ?_⟩
  cases h with
  | string hp hend => exact read?_string hp hend
  | openString hstart hnever => exact read?_openString hstart hnever
  | @list p _ quoted hstart hp hfirst hcomment hquoted =>
    obtain ⟨tail, rfl⟩ := List.head?_eq_some_iff.1 hstart
    -- The closing parenthesis is found again, whatever stands behind it.
    have hread := closing?_append (closes_open_iff.1 hp) (first_open_iff.1 hfirst)
      (comment_open_iff.1 hcomment) rest
    have hsame : ((Text.trimStart tail).head? == some '\'') = quoted :=
      Bool.eq_iff_iff.2 (head?_trimStart_iff.trans hquoted.symm)
    subst hsame
    rw [List.cons_append, read?_open, hread]
    rfl
  | word hstart hend hfirst => rw [read?_word hstart, word_append_of_stops hend hfirst]

/-- A list that is closed has no comment before its end, so it ends before a comment. -/
theorem not_comment_of_closes {before after : List Char} (hp : Closes p)
    (hcomment : ∀ before after, p = before ++ '/' :: '*' :: after →
      insideAfter false before = true)
    (happend : p ++ rest = before ++ '/' :: '*' :: after)
    (hinside : insideAfter false before = false) : p <+: before := by
  have hbefore : before <+: p ++ rest := happend ▸ List.prefix_append before _
  rcases List.prefix_or_prefix_of_prefix (List.prefix_append p rest) hbefore with hpre | ⟨x, rfl⟩
  · exact hpre
  rw [List.append_assoc, List.append_cancel_left_eq] at happend
  -- The comment cannot start within the text: its first character would be the last parenthesis, or
  -- the text would hold it.
  match x, happend with
  | [], _ => exact ⟨[], by simp⟩
  | [d], happend =>
    obtain ⟨inner, hinner, -⟩ := hp
    obtain rfl : d = '/' := (List.cons.inj happend).1
    exact absurd (List.append_inj_right' hinner rfl) (by decide)
  | d :: e :: x, happend =>
    obtain ⟨rfl, hrest⟩ := List.cons.inj happend
    obtain ⟨rfl, -⟩ := List.cons.inj hrest
    exact absurd (hinside.symm.trans (hcomment before x rfl)) Bool.false_ne_true

/-- A text has no test value if it starts with a list that is not closed, and only then. -/
theorem read?_eq_none_iff : read? cs = none ↔ Unclosed cs := by
  constructor
  · intro h
    obtain ⟨tail, rfl⟩ := exists_eq_cons_of_read? h
    rw [read?_open, Option.map_eq_none_iff] at h
    -- What closes the text behind its opening parenthesis closes it from level one.
    have hcons : ∀ {before : List Char}, (∀ q, q <+: before → ¬ClosesFrom false 1 q) →
        ∀ q, q <+: '(' :: before → ¬Closes q := by
      intro before hbefore q hprefix hcloses
      rcases List.prefix_cons_iff.1 hprefix with rfl | ⟨q, rfl, hq⟩
      · exact not_closesFrom_nil (closesFrom_zero.2 hcloses)
      · exact hbefore q hq (closes_open_iff.1 hcloses)
    refine ⟨rfl, ?_⟩
    rcases closing?_eq_none h with ⟨before, after, rfl, hinside, hbefore⟩ | hnever
    · exact .inl ⟨'(' :: before, after, rfl, hinside, hcons hbefore⟩
    · exact .inr (hcons hnever)
  · rintro ⟨hstart, hunclosed⟩
    obtain ⟨tail, rfl⟩ := List.head?_eq_some_iff.1 hstart
    rw [read?_open, Option.map_eq_none_iff, Option.eq_none_iff_forall_not_mem]
    rintro ⟨inner, rest⟩ hread
    obtain ⟨rfl, hcloses, -, hcomment⟩ := closing?_eq_some hread
    have hp := closes_open_iff.2 hcloses
    rcases hunclosed with ⟨before, after, happend, hinside, hbefore⟩ | hnever
    · exact hbefore _ (not_comment_of_closes hp (comment_open_iff.2 hcomment) happend hinside) hp
    · exact hnever ('(' :: inner) (List.prefix_append ('(' :: inner) rest) hp

/-- The parentheses of a list stay open until it is closed. -/
theorem depth_nonneg (hstart : cs.head? = some '(') (hq : q <+: cs)
    (hfirst : ∀ p, p <+: q → Closes p → p = q) : 0 ≤ depth false q := by
  by_cases hclosed : Closes q
  · obtain ⟨-, -, -, hdepth⟩ := hclosed
    exact Int.le_of_eq hdepth.symm
  · obtain ⟨tail, rfl⟩ := List.head?_eq_some_iff.1 hstart
    rcases List.prefix_cons_iff.1 hq with rfl | ⟨q, rfl, -⟩
    · exact Int.le_refl 0
    -- Nothing has closed the text, so it is still within its first parenthesis.
    · have hopen : ∀ p, p <+: q → ¬ClosesFrom false 1 p := by
        intro p hp hcloses
        have hsame := hfirst ('(' :: p) ((List.prefix_cons_inj '(').2 hp)
          (closes_open_iff.2 hcloses)
        exact hclosed (hsame ▸ closes_open_iff.2 hcloses)
      exact Int.le_of_lt (depth_pos Int.one_pos hopen)

end TestValue

namespace Token

open Template Directive Piece

variable {offset : Nat} {cs body behind path rest : List Char} {embedded : Bool}

/-- Behind the comment of a variable its test value is read, and then the text behind that. -/
theorem scan_variable (offset : Nat)
    (hbody : commentBody? (holdsStrings cs) 0 cs = some (body, behind))
    (hkind : classify? body = some (.reference embedded path)) {value : TestValue}
    (htest : TestValue.read? behind = some (value, rest)) :
    let next := offset + Text.utf8Size (comment body) + Text.utf8Size value.text.toList
    scan offset ('/' :: '*' :: cs) = (scan next rest).map
      (Scanned.afterDirective ⟨variableKind embedded (String.ofList path) value, offset⟩ next) := by
  have hfirst : first ('/' :: '*' :: cs) =
      stretch (some (variableKind embedded (String.ofList path) value))
        (comment body ++ value.text.toList) rest := by
    simp only [first, hbody, ofComment, hkind, htest]
  rw [scan_eq, hfirst, scanPiece, Text.utf8Size_append, ← Nat.add_assoc]
  rfl

/-- A list that is not closed is a fault behind the comment. -/
theorem scan_variable_unbalanced (offset : Nat)
    (hbody : commentBody? (holdsStrings cs) 0 cs = some (body, behind))
    (hkind : classify? body = some (.reference embedded path))
    (htest : TestValue.read? behind = none) :
    scan offset ('/' :: '*' :: cs) =
      .error (.unbalancedTestValue (offset + Text.utf8Size (comment body))) := by
  have hfirst : first ('/' :: '*' :: cs) = unbalanced (comment body) := by
    simp only [first, hbody, ofComment, hkind, htest]
  rw [scan_eq, hfirst, scanPiece]

/-- A fault in a test value is one behind a comment. -/
theorem lt_of_scan_eq_unbalanced {place : Nat}
    (h : scan offset cs = .error (.unbalancedTestValue place)) : offset < place := by
  obtain ⟨before, source, -, -, ⟨path, -, hsource⟩, rfl⟩ := (scans_scan offset cs).pointsInto h
  have hpos : 0 < Text.utf8Size source := by
    refine Text.utf8Size_pos ?_
    rcases hsource with rfl | rfl <;> exact List.cons_ne_nil _ _
  rw [Text.utf8Size_append]
  omega

/-- How far the test value of a variable goes, in a text with the comment of the variable somewhere
in it. The test value is cut out of the text between two characters, and there is a fault if it is
a list that is not closed. -/
theorem testValue_extent {text : String} {before : List Char}
    (htext : text.toList = before ++ '/' :: '*' :: cs)
    (hbody : commentBody? (holdsStrings cs) 0 cs = some (body, behind))
    (hkind : classify? body = some (.reference embedded path)) :
    let offset := Text.utf8Size before
    let start := offset + Text.utf8Size (comment body)
    (∀ value rest, TestValue.read? behind = some (value, rest) ↔
      TestValue.Extent behind value rest) ∧
    (∀ value rest, TestValue.Extent behind value rest →
      let stop := start + Text.utf8Size value.text.toList
      scan offset ('/' :: '*' :: cs) = (scan stop rest).map
          (Scanned.afterDirective ⟨variableKind embedded (String.ofList path) value, offset⟩ stop) ∧
        (⟨start⟩ : String.Pos.Raw).IsValid text ∧ (⟨stop⟩ : String.Pos.Raw).IsValid text ∧
        String.Pos.Raw.extract text ⟨start⟩ ⟨stop⟩ = value.text) ∧
    (scan offset ('/' :: '*' :: cs) = .error (.unbalancedTestValue start) ↔
      TestValue.Unclosed behind) ∧
    (behind.head? = some '(' → ∀ q, q <+: behind →
      (∀ p, p <+: q → TestValue.Closes p → p = q) → 0 ≤ TestValue.depth false q) := by
  intro offset start
  refine ⟨fun value rest => TestValue.read?_eq_some_iff, ?_, ?_, ?_⟩
  · intro value rest hextent stop
    have hread := TestValue.read?_eq_some_iff.2 hextent
    have hbehind := TestValue.eq_append_of_read? hread
    have hpieces : text.toList = (before ++ comment body) ++ value.text.toList ++ rest := by
      rw [htext, eq_comment_append hbody, hbehind]
      simp only [List.append_assoc]
    have hstart : start = Text.utf8Size (before ++ comment body) :=
      (Text.utf8Size_append before (comment body)).symm
    have hstop : stop = Text.utf8Size (before ++ comment body ++ value.text.toList) := by
      rw [Text.utf8Size_append, ← hstart]
    refine ⟨scan_variable offset hbody hkind hread, ?_, ?_, ?_⟩
    · rw [hstart]
      exact Text.isValid_utf8Size (hpieces.trans (List.append_assoc _ _ _))
    · rw [hstop]
      exact Text.isValid_utf8Size hpieces
    · have hslice := Text.extract_eq hpieces
      rwa [← hstart, String.ofList_toList] at hslice
  · rw [← TestValue.read?_eq_none_iff]
    refine ⟨fun h => ?_, scan_variable_unbalanced offset hbody hkind⟩
    cases hread : TestValue.read? behind with
    | none => rfl
    | some result =>
      -- The rest of the text has its faults behind the test value.
      obtain ⟨value, rest⟩ := result
      rw [scan_variable offset hbody hkind hread] at h
      have hlt := lt_of_scan_eq_unbalanced (Outcome.map_eq_error.1 h)
      omega
  · exact fun hstart q hq => TestValue.depth_nonneg hstart hq

/-- A list that holds a parenthesis in a string, with letters of two bytes before it and in it. -/
theorem testValue_extent_list :
    let text := "é in /*x*/(1, ')é', (2)), ''"
    let behind := "(1, ')é', (2)), ''".toList
    let cs := 'x' :: '*' :: '/' :: behind
    text.toList = "é in ".toList ++ '/' :: '*' :: cs ∧
      commentBody? (holdsStrings cs) 0 cs = some (['x'], behind) ∧
      classify? ['x'] = some (.reference false ['x']) ∧
      TestValue.Extent behind ⟨"(1, ')é', (2))", false, true⟩ ", ''".toList ∧
      String.Pos.Raw.extract text ⟨11⟩ ⟨26⟩ = "(1, ')é', (2))" := by
  intro text behind cs
  have htext : text.toList = "é in ".toList ++ '/' :: '*' :: cs := by decide
  have hbody : commentBody? (holdsStrings cs) 0 cs = some (['x'], behind) := by decide +kernel
  have hkind : classify? ['x'] = some (.reference false ['x']) := by decide
  have hread : TestValue.read? behind =
      some (⟨"(1, ')é', (2))", false, true⟩, ", ''".toList) := by
    decide +kernel
  obtain ⟨hextent, hslice, -⟩ := testValue_extent htext hbody hkind
  have hlist := (hextent _ _).1 hread
  exact ⟨htext, hbody, hkind, hlist, (hslice _ _ hlist).2.2.2⟩

end Token

end SqlTemplate
