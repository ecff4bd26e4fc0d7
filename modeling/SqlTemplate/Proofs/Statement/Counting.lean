import Mathlib.Tactic.SplitIfs
import SqlTemplate.Statement.Placeholder

/-!
# Counting one character at a time

`Statement.countMarks` looks ahead and jumps over strings and comments. `Mode` is the same count as
an automaton that reads one character after the other: it keeps where the count is, outside
strings and comments or inside one, and whether the last character may be a part of a mark of two
characters. `Statement.countMarks_eq` says that the two agree.

The automaton makes the count additive: a text that is read in two parts is counted in two parts
(`Mode.counted_append`), and a part counts as it does by itself if the part before it ends outside
and no comment is opened where they meet (`Mode.Joins`).
-/

namespace SqlTemplate

/-- Where the count of placeholders is in a text. -/
inductive Mode where
  /-- Outside strings and comments. -/
  | code
  /-- Outside, behind a slash. -/
  | slash
  /-- Outside, behind a dash. -/
  | dash
  /-- In a string. -/
  | quoted
  /-- In a block comment. -/
  | block
  /-- In a block comment, behind a star that may end it. -/
  | star
  /-- In a line comment. -/
  | line
  deriving DecidableEq, Repr

namespace Mode

/-- Outside strings and comments. -/
def isOutside : Mode → Bool
  | code | slash | dash => true
  | quoted | block | star | line => false

/-- Behind a character that opens no comment. -/
def behind (c : Char) : Mode :=
  if c = '\'' then quoted else if c = '/' then slash else if c = '-' then dash else code

/-- Behind one more character. -/
def next : Mode → Char → Mode
  | code, c => behind c
  | slash, c => if c = '*' then block else behind c
  | dash, c => if c = '-' then line else behind c
  | quoted, c => if c = '\'' then code else quoted
  | block, c => if c = '*' then star else block
  | star, c => if c = '/' then code else if c = '*' then star else block
  | line, c => if c = '\n' then code else line

/-- Behind a text. -/
def after (s : Mode) (cs : List Char) : Mode :=
  cs.foldl next s

/-- The placeholders of a text: the question marks outside strings and comments. -/
def counted : Mode → List Char → Nat
  | _, [] => 0
  | s, c :: cs => (s.next c).counted cs + if s.isOutside && c == '?' then 1 else 0

variable {s : Mode} {c : Char} {cs ds : List Char}

/-- No character changes nothing. -/
@[simp] theorem after_nil (s : Mode) : s.after [] = s := rfl

/-- The first character is read before the others. -/
@[simp] theorem after_cons (s : Mode) (c : Char) (cs : List Char) :
    s.after (c :: cs) = (s.next c).after cs := rfl

/-- Texts one after the other are read one after the other. -/
theorem after_append (s : Mode) (cs ds : List Char) :
    s.after (cs ++ ds) = (s.after cs).after ds :=
  List.foldl_append

/-- What is read in two parts is counted in two parts. -/
theorem counted_append (s : Mode) (cs ds : List Char) :
    s.counted (cs ++ ds) = s.counted cs + (s.after cs).counted ds := by
  induction cs generalizing s with
  | nil => simp [counted]
  | cons c cs ih => simp only [List.cons_append, counted, ih, after_cons]; omega

/-- Without a question mark there is nothing to count. -/
theorem counted_of_notMem (h : '?' ∉ cs) : s.counted cs = 0 := by
  induction cs generalizing s with
  | nil => rfl
  | cons c cs ih =>
    simp only [List.mem_cons, not_or] at h
    obtain ⟨hc, hcs⟩ := h
    have hmark : (s.isOutside && c == '?') = false := by
      rw [beq_false_of_ne (Ne.symm hc), Bool.and_false]
    rw [counted, ih hcs, hmark]
    rfl

/-! ## Where parts meet -/

/-- Outside, a character that opens no comment with the one before it is read as by itself. -/
theorem next_eq (hs : s.isOutside = true) (hblock : s = slash → c ≠ '*')
    (hline : s = dash → c ≠ '-') : s.next c = code.next c := by
  cases s with
  | code => rfl
  | slash => exact if_neg (hblock rfl)
  | dash => exact if_neg (hline rfl)
  | quoted | block | star | line => exact absurd hs Bool.false_ne_true

/-- The text is read on from here as it is read by itself. -/
def Joins (s : Mode) (cs : List Char) : Prop :=
  ∀ c ∈ cs.head?, s.next c = code.next c

/-- In code no text is changed by what stands before it. -/
theorem joins_code (cs : List Char) : code.Joins cs :=
  fun _ _ => rfl

/-- Where a text joins, it is read as in code. -/
theorem Joins.after_eq (h : s.Joins cs) (hcs : cs ≠ []) : s.after cs = code.after cs := by
  cases cs with
  | nil => exact absurd rfl hcs
  | cons c cs => rw [after_cons, h c rfl, after_cons]

/-- Behind a character that begins neither a string nor a comment, the text is read as by itself. -/
theorem joins_next (hquote : c ≠ '\'') (hblock : ∀ more, c = '/' → cs ≠ '*' :: more)
    (hline : ∀ more, c = '-' → cs ≠ '-' :: more) :
    (code.next c).isOutside = true ∧ (code.next c).Joins cs := by
  have hmode : code.next c = if c = '/' then slash else if c = '-' then dash else code :=
    if_neg hquote
  rw [hmode]
  split_ifs with hslash hdash
  · refine ⟨rfl, fun d hd => next_eq rfl (fun _ hstar => ?_) nofun⟩
    obtain ⟨more, hmore⟩ := List.head?_eq_some_iff.1 (hstar ▸ hd)
    exact hblock more hslash hmore
  · refine ⟨rfl, fun d hd => next_eq rfl nofun fun _ hsecond => ?_⟩
    obtain ⟨more, hmore⟩ := List.head?_eq_some_iff.1 (hsecond ▸ hd)
    exact hline more hdash hmore
  · exact ⟨rfl, joins_code cs⟩

/-- What is read as by itself is counted as by itself. -/
theorem Joins.counted_eq (h : s.Joins cs) : s.counted cs = code.counted cs := by
  cases cs with
  | nil => rfl
  | cons c cs =>
    have hnext : s.next c = code.next c := h c rfl
    have hmark : (s.isOutside && c == '?') = (code.isOutside && c == '?') := by
      by_cases hc : c = '?'
      · -- No mode inside a string or a comment is left by a question mark.
        subst hc
        cases s <;> first | rfl | exact absurd hnext (by decide)
      · rw [beq_false_of_ne hc, Bool.and_false, Bool.and_false]
    rw [counted, counted, hnext, hmark]

/-- Behind a star in a block comment, all but a slash goes on as behind the star's neighbours. -/
theorem next_star (h : c ≠ '/') : star.next c = block.next c :=
  if_neg h

/-- A star that ends no comment is a character of the comment like others. -/
theorem next_block_eq (h : c = '*' → cs.head? ≠ some '/') (hcs : cs ≠ []) :
    (block.next c).after cs = block.after cs ∧ (block.next c).counted cs = block.counted cs := by
  obtain ⟨d, ds, rfl⟩ := List.exists_cons_of_ne_nil hcs
  by_cases hc : c = '*'
  · have hd : d ≠ '/' := fun hd => h hc (congrArg some hd)
    have hstar : block.next c = star := if_pos hc
    have houtside : star.isOutside = block.isOutside := rfl
    rw [hstar, after_cons, after_cons, counted, counted, next_star hd, houtside]
    exact ⟨rfl, rfl⟩
  · have hblock : block.next c = block := if_neg hc
    rw [hblock]
    exact ⟨rfl, rfl⟩

end Mode

/-! ## The two counts -/

namespace Statement

open Mode

/-- What ends at the next mark is passed over. -/
theorem counted_eq_afterFirst {s : Mode} {mark : Char} (hs : s.isOutside = false)
    (hnext : ∀ c, s.next c = if c = mark then code else s) (cs : List Char) :
    s.counted cs = code.counted (Text.afterFirst mark cs) := by
  induction cs with
  | nil => rfl
  | cons c cs ih =>
    rw [counted, hnext, hs, Bool.false_and]
    by_cases hc : c = mark
    · simp [hc, Text.afterFirst]
    · simp only [if_neg hc, ih]
      simp [Text.afterFirst, hc]

/-- A block comment is passed over. -/
theorem counted_eq_afterBlock (cs : List Char) :
    block.counted cs = code.counted (afterBlock cs) := by
  fun_induction afterBlock cs with
  | case1 => rfl
  | case2 cs => rfl
  | case3 c cs hend ih =>
    rw [← ih, counted]
    cases cs with
    | nil => rfl
    | cons d cs =>
      refine (next_block_eq ?_ (List.cons_ne_nil d cs)).2
      rintro hc hd
      exact hend cs hc (congrArg (· :: cs) (Option.some.inj hd))

/-- The count that looks ahead is the count of the automaton. -/
theorem countMarks_eq (cs : List Char) : countMarks cs = code.counted cs := by
  fun_induction countMarks cs with
  | case1 => rfl
  | case2 cs ih =>
    rw [ih, ← counted_eq_afterFirst (s := quoted) rfl fun _ => rfl]
    rfl
  | case3 cs ih =>
    rw [ih, ← counted_eq_afterBlock]
    rfl
  | case4 cs ih =>
    rw [ih, ← counted_eq_afterFirst (s := line) rfl fun _ => rfl]
    rfl
  | case5 cs ih =>
    rw [ih]
    rfl
  -- Any other character counts for nothing and opens no comment with the next one.
  | case6 c cs hquote hblock hline hmark ih =>
    have hjoins := (joins_next hquote hblock hline).2
    have hplain : (code.isOutside && c == '?') = false := beq_false_of_ne hmark
    rw [ih, counted, hjoins.counted_eq, hplain]
    rfl

/-- The placeholders of a statement are counted by the automaton. -/
theorem countPlaceholders_eq (sql : String) :
    countPlaceholders sql = code.counted sql.toList :=
  countMarks_eq sql.toList

end Statement

end SqlTemplate
