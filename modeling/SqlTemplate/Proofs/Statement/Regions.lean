import SqlTemplate.Proofs.Statement.Counting

/-!
# Counting by regions

The text of a statement falls into four kinds of region: normal text, strings, block comments and
line comments. `Region.scan` reads it from the left, takes the two characters that open or close a
comment at once, and counts the question marks in normal text. A region that is not closed runs to
the end of the text, since nothing but its mark leads out of it.

The main statement, `countPlaceholders_regions`, is that this is the count of placeholders, and
that the counts of two texts add up where no comment is opened between them and the first one ends
in normal text. The regions are those of `Mode`, which looks one character behind instead of one
ahead (`Region.scan_eq`).
-/

namespace SqlTemplate

/-- What a place in a text belongs to. -/
inductive Region where
  /-- Neither a string nor a comment. -/
  | normal
  /-- A string. -/
  | quoted
  /-- A block comment. -/
  | block
  /-- A line comment. -/
  | line
  deriving DecidableEq, Repr

namespace Region

/-- The question marks in normal text, and the region that the text ends in. -/
def scan : Region → List Char → Nat × Region
  | s, [] => (0, s)
  | normal, '\'' :: cs => scan quoted cs
  | normal, '/' :: '*' :: cs => scan block cs
  | normal, '-' :: '-' :: cs => scan line cs
  | normal, '?' :: cs => ((scan normal cs).1 + 1, (scan normal cs).2)
  | normal, _ :: cs => scan normal cs
  | quoted, '\'' :: cs => scan normal cs
  | quoted, _ :: cs => scan quoted cs
  | block, '*' :: '/' :: cs => scan normal cs
  | block, _ :: cs => scan block cs
  | line, '\n' :: cs => scan normal cs
  | line, _ :: cs => scan line cs

/-- The last character of a text and the first one of another open a comment. -/
def Opened (cs ds : List Char) : Prop :=
  (cs.getLast? = some '/' ∧ ds.head? = some '*') ∨ (cs.getLast? = some '-' ∧ ds.head? = some '-')

/-- The last character of one text and the first one of the other decide. -/
instance (cs ds : List Char) : Decidable (Opened cs ds) :=
  inferInstanceAs (Decidable (_ ∨ _))

/-- Where the character-wise count is at the start of a region. -/
def mode : Region → Mode
  | normal => .code
  | quoted => .quoted
  | block => .block
  | line => .line

end Region

/-- The region of a place. -/
def Mode.region : Mode → Region
  | code | slash | dash => .normal
  | quoted => .quoted
  | block | star => .block
  | line => .line

namespace Region

variable {s : Region} {c : Char} {cs ds : List Char}

/-- The mode of a region lies in this region. -/
theorem region_mode (s : Region) : s.mode.region = s := by
  cases s <;> rfl

/-- Outside strings and comments the region is the normal one. -/
theorem region_of_isOutside {m : Mode} (h : m.isOutside = true) : m.region = normal := by
  cases m <;> first | rfl | exact absurd h Bool.false_ne_true

/-- In the normal region the mode is outside strings and comments. -/
theorem isOutside_of_region {m : Mode} (h : m.region = normal) : m.isOutside = true := by
  cases m <;> first | rfl | exact absurd h (by decide)

/-- A region and the count in it are those of the text behind a character that changes neither. -/
theorem counted_cons {m : Mode} (hmark : (m.isOutside && c == '?') = false)
    (hregion : (m.next c).region = m.region)
    (hcs : cs ≠ [] → (m.next c).after cs = m.after cs ∧ (m.next c).counted cs = m.counted cs) :
    (m.counted (c :: cs), (m.after (c :: cs)).region) = (m.counted cs, (m.after cs).region) := by
  rw [Mode.counted, hmark, Mode.after_cons]
  by_cases hnil : cs = []
  · subst hnil
    exact Prod.ext rfl hregion
  · obtain ⟨hafter, hcounted⟩ := hcs hnil
    rw [hafter, hcounted]
    rfl

/-- Reading ahead and looking behind find the same regions. -/
theorem scan_eq (s : Region) (cs : List Char) :
    s.scan cs = (s.mode.counted cs, (s.mode.after cs).region) := by
  fun_induction scan s cs with
  | case1 s => rw [Mode.after_nil, region_mode, Mode.counted]
  | case2 cs ih => exact ih
  | case3 cs ih => exact ih
  | case4 cs ih => exact ih
  | case5 cs ih =>
    rw [ih]
    rfl
  -- Code: a character that opens nothing leaves the region as it is.
  | case6 c cs hquote hblock hline hmark ih =>
    obtain ⟨houtside, hjoins⟩ := Mode.joins_next hquote hblock hline
    have hplain : (Mode.code.isOutside && c == '?') = false := beq_false_of_ne hmark
    rw [ih]
    refine (counted_cons hplain (region_of_isOutside houtside) fun hcs => ?_).symm
    exact ⟨hjoins.after_eq hcs, hjoins.counted_eq⟩
  | case7 cs ih => exact ih
  -- A string goes on up to the next quote.
  | case8 c cs hquote ih =>
    have hnext : Mode.quoted.next c = Mode.quoted := if_neg hquote
    rw [ih]
    refine (counted_cons rfl ?_ fun _ => ?_).symm
    · exact congrArg Mode.region hnext
    · exact hnext ▸ ⟨rfl, rfl⟩
  | case9 cs ih => exact ih
  -- A block comment goes on up to a star before a slash.
  | case10 c cs hend ih =>
    have hregion : (Mode.block.next c).region = .block := by
      show (if c = '*' then Mode.star else Mode.block).region = block
      split_ifs <;> rfl
    rw [ih]
    refine (counted_cons rfl hregion fun hcs => Mode.next_block_eq ?_ hcs).symm
    rintro rfl hslash
    obtain ⟨more, rfl⟩ := List.head?_eq_some_iff.1 hslash
    exact hend more rfl rfl
  | case11 cs ih => exact ih
  -- A line comment goes on up to the end of the line.
  | case12 c cs hbreak ih =>
    have hnext : Mode.line.next c = Mode.line := if_neg hbreak
    rw [ih]
    refine (counted_cons rfl ?_ fun _ => ?_).symm
    · exact congrArg Mode.region hnext
    · exact hnext ▸ ⟨rfl, rfl⟩

/-! ## Two texts -/

/-- The mode behind a character that may open a comment tells which character it is. -/
theorem eq_of_next {m : Mode} :
    (m.next c = .slash → c = '/') ∧ (m.next c = .dash → c = '-') := by
  cases m <;> simp only [Mode.next, Mode.behind] <;> split_ifs <;> simp_all

/-- Where a text ends in normal text and no comment is opened behind it, another one is read as by
itself. -/
theorem joins_of_not_opened (hend : (normal.scan cs).2 = normal) (hopened : ¬Opened cs ds) :
    (Mode.code.after cs).Joins ds := by
  rcases List.eq_nil_or_concat cs with rfl | ⟨front, last, rfl⟩
  · exact Mode.joins_code ds
  · rw [List.concat_eq_append] at hend hopened ⊢
    rw [scan_eq] at hend
    rw [Mode.after_append] at hend ⊢
    change ((Mode.code.after front).next last).region = normal at hend
    show ((Mode.code.after front).next last).Joins ds
    obtain ⟨hslash, hdash⟩ := eq_of_next (m := Mode.code.after front) (c := last)
    intro d hd
    refine Mode.next_eq (isOutside_of_region hend) (fun hmode hstar => hopened (.inl ?_))
      (fun hmode hsecond => hopened (.inr ?_))
    · exact ⟨by rw [List.getLast?_concat, hslash hmode], hstar ▸ hd⟩
    · exact ⟨by rw [List.getLast?_concat, hdash hmode], hsecond ▸ hd⟩

end Region

namespace Statement

/-- The placeholders of a text are the question marks in its normal text. Those of two texts add up
where the first one ends in normal text and no comment is opened between them. -/
theorem countPlaceholders_regions :
    (∀ sql : String, countPlaceholders sql = (Region.normal.scan sql.toList).1) ∧
      ∀ a b : String, (Region.normal.scan a.toList).2 = .normal →
        ¬Region.Opened a.toList b.toList →
        countPlaceholders (a ++ b) = countPlaceholders a + countPlaceholders b := by
  constructor
  · intro sql
    rw [countPlaceholders_eq, Region.scan_eq]
    rfl
  · intro a b hend hopened
    have hjoins := Region.joins_of_not_opened hend hopened
    rw [countPlaceholders_eq, countPlaceholders_eq, countPlaceholders_eq, String.toList_append,
      Mode.counted_append, hjoins.counted_eq]

/-- Behind a block comment that a slash follows at once, and before the star of another text. -/
theorem countPlaceholders_regions_comment :
    (Region.normal.scan "a = ? /*/ ? '*/".toList).2 = .normal ∧
      ¬Region.Opened "a = ? /*/ ? '*/".toList "-- ?\n- '?' and b = ? /* ?*".toList ∧
      countPlaceholders ("a = ? /*/ ? '*/" ++ "-- ?\n- '?' and b = ? /* ?*") =
        countPlaceholders "a = ? /*/ ? '*/" +
          countPlaceholders "-- ?\n- '?' and b = ? /* ?*" := by
  have hend : (Region.normal.scan "a = ? /*/ ? '*/".toList).2 = .normal := by decide
  have hopened :
      ¬Region.Opened "a = ? /*/ ? '*/".toList "-- ?\n- '?' and b = ? /* ?*".toList := by
    decide
  exact ⟨hend, hopened, countPlaceholders_regions.2 _ _ hend hopened⟩

end Statement

end SqlTemplate
