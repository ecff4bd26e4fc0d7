import SqlTemplate.Proofs.Dialect.Inlining
import SqlTemplate.Proofs.Statement.Counting

/-!
# Inlining and counting

Counting knows which question marks of a statement are placeholders: those outside strings and
comments. Inlining looks for the next question mark and does not ask where it stands. Both are said
here as one replacement, `Text.replaceEach`, with different characters chosen: a character is a
placeholder if one more is counted up to and with it than before it (`Statement.isPlaceholder`).

`Dialect.inline_replaced` compares the two. They part at the first question mark in a string or a
comment that comes before the last counted placeholder: a literal is put there, and no literal
starts with a question mark, so that nothing behind can make up for it.
-/

namespace SqlTemplate

/-- The text with characters replaced by texts from the left, as long as there are texts. A
character is replaced if it is chosen, which may depend on what stands before it. -/
def Text.replaceEach (chosen : List Char → Char → Bool) :
    List (List Char) → List Char → List Char → List Char
  | [], _, cs => cs
  | _ :: _, _, [] => []
  | text :: texts, before, c :: cs =>
    if chosen before c then text ++ replaceEach chosen texts (before ++ [c]) cs
    else c :: replaceEach chosen (text :: texts) (before ++ [c]) cs

/-- A chosen character is replaced by the next text. -/
theorem Text.replaceEach_chosen {chosen : List Char → Char → Bool} {before : List Char} {c : Char}
    (h : chosen before c = true) (text : List Char) (texts : List (List Char)) (cs : List Char) :
    replaceEach chosen (text :: texts) before (c :: cs) =
      text ++ replaceEach chosen texts (before ++ [c]) cs :=
  if_pos h

/-- A character that is not chosen stays. -/
theorem Text.replaceEach_kept {chosen : List Char → Char → Bool} {before : List Char} {c : Char}
    (h : chosen before c = false) (texts : List (List Char)) (cs : List Char) :
    replaceEach chosen texts before (c :: cs) =
      c :: replaceEach chosen texts (before ++ [c]) cs := by
  cases texts with
  | nil => rw [replaceEach, replaceEach]
  | cons text texts => exact if_neg (Bool.eq_false_iff.1 h)

namespace Statement

/-- The character is one of the placeholders that are counted: with it, there is one more of them
than before it. -/
def isPlaceholder (before : List Char) (c : Char) : Bool :=
  countMarks (before ++ [c]) == countMarks before + 1

/-- The character is a question mark, wherever it stands. -/
def isQuestionMark (_before : List Char) (c : Char) : Bool :=
  c == '?'

/-- The text of the statement with chosen characters replaced, from the left, by texts. -/
def replaced (s : Statement) (chosen : List Char → Char → Bool) (texts : List String) : String :=
  String.ofList (Text.replaceEach chosen (texts.map String.toList) [] s.sql.toList)

end Statement

/-! ## Which characters are counted -/

namespace Statement

open Mode

variable {before cs : List Char} {c : Char}

/-- One more character counts for one at most, and only as a question mark outside. -/
theorem countMarks_snoc (before : List Char) (c : Char) :
    countMarks (before ++ [c]) =
      countMarks before + if (code.after before).isOutside && c == '?' then 1 else 0 := by
  rw [countMarks_eq, countMarks_eq, counted_append, counted, counted, Nat.zero_add]

/-- Nothing that follows takes a placeholder away. -/
theorem countMarks_le_append (before cs : List Char) :
    countMarks before ≤ countMarks (before ++ cs) := by
  rw [countMarks_eq, countMarks_eq, counted_append]
  exact Nat.le_add_right _ _

/-- What is counted is a question mark. -/
theorem isPlaceholder_eq_false (hc : c ≠ '?') (before : List Char) :
    isPlaceholder before c = false := by
  rw [isPlaceholder, countMarks_snoc, beq_false_of_ne hc, Bool.and_false]
  simp

/-- A character that is no placeholder leaves the count as it is. -/
theorem countMarks_snoc_of_not (h : isPlaceholder before c = false) :
    countMarks (before ++ [c]) = countMarks before := by
  rw [isPlaceholder, countMarks_snoc] at h
  rw [countMarks_snoc]
  split_ifs with hmark
  · simp [hmark] at h
  · rfl

end Statement

/-! ## How literals start -/

/-- The text starts with some character, and not with a question mark. -/
def Text.StartsPlain (cs : List Char) : Prop :=
  ∃ c ∈ cs.head?, c ≠ '?'

/-- The first character decides. -/
instance : DecidablePred Text.StartsPlain
  | [] => isFalse fun ⟨_, hc, _⟩ => nomatch hc
  | c :: _ => decidable_of_iff (c ≠ '?')
    ⟨fun h => ⟨c, rfl, h⟩, fun ⟨_, hc, h⟩ => Option.some.inj hc ▸ h⟩

namespace Text.StartsPlain

variable {cs : List Char} {s : String}

/-- What follows the first character does not matter. -/
theorem append (h : StartsPlain s.toList) (t : String) : StartsPlain (s ++ t).toList := by
  obtain ⟨c, hc, hmark⟩ := h
  refine ⟨c, ?_, hmark⟩
  rw [String.toList_append, List.head?_append, Option.mem_def.1 hc]
  rfl

/-- A text of simple characters starts plainly, unless it is empty. -/
theorem of_simple (h : Simple cs) (hne : cs ≠ []) : StartsPlain cs := by
  obtain ⟨c, rest, rfl⟩ := List.exists_cons_of_ne_nil hne
  refine ⟨c, rfl, ?_⟩
  rintro rfl
  exact absurd (h '?' List.mem_cons_self) (by decide)

end Text.StartsPlain

/-- Digits are laid out as a text of some length. -/
theorem Decimal.positional_ne_empty (digits : List Char) (point : Int) :
    (positional "" digits point).toList ≠ [] := by
  unfold positional
  split_ifs with hleft hright
  · simp
  · -- As many characters as the point has before it.
    intro hempty
    have hlength := congrArg List.length hempty
    simp only [String.append_empty, String.toList_ofList, List.length_append,
      List.length_replicate, List.length_nil] at hlength
    omega
  · simp

/-- So is every decimal. -/
theorem Decimal.render_ne_empty (x : Float) : (Layout.plain.render x).toList ≠ [] := by
  have hdigits : ∀ d : Scientific, (Layout.plain.digits d).toList ≠ [] :=
    fun d => positional_ne_empty _ _
  unfold Layout.render
  split
  · decide
  · decide
  · decide
  · decide
  · decide
  · exact hdigits _
  · simp

/-- A whole number has digits. -/
theorem Value.toString_int_ne_empty (n : Int) : (toString n).toList ≠ [] := by
  cases n with
  | ofNat n =>
    rw [show toString (Int.ofNat n) = toString n from rfl, Nat.toString_eq_ofList_toDigits,
      String.toList_ofList]
    exact Nat.toDigits_ne_nil
  | negSucc n =>
    rw [show toString (Int.negSucc n) = "-" ++ toString (n + 1) from rfl]
    simp

/-- A literal starts with some character, and not with a question mark. -/
theorem Dialect.startsPlain_literal (d : Dialect) (v : Value) :
    Text.StartsPlain (d.literal v).toList := by
  have hkinds : d.literalWords ∈ [("", ""), ("DATE ", "TIMESTAMP "), ("date ", "timestamp ")] := by
    obtain ⟨kind, limit⟩ := d
    cases kind <;> simp [literalWords]
  have hall : ∀ words ∈ [("", ""), ("DATE ", "TIMESTAMP "), ("date ", "timestamp ")],
      Text.StartsPlain (words.1 ++ "'").toList ∧ Text.StartsPlain (words.2 ++ "'").toList := by
    decide
  -- The literals of dates start with one of a few words or with a quote.
  have hwords := hall d.literalWords hkinds
  cases v with
  | null => exact (by decide : Text.StartsPlain "null".toList)
  | bool b =>
    have hbool : ∀ b : Bool, Text.StartsPlain (if b then "true" else "false").toList := by decide
    exact hbool b
  | integer n => exact .of_simple (Value.simple_toString_int _) (Value.toString_int_ne_empty _)
  | decimal x => exact .of_simple (Decimal.simple_render x) (Decimal.render_ne_empty x)
  | string s =>
    refine ⟨'\'', ?_, by decide⟩
    rw [literal, quote, String.toList_ofList]
    rfl
  | date date => exact (hwords.1.append _).append _
  | timestamp t => exact (hwords.2.append _).append _
  | list items => exact Text.StartsPlain.append (Text.StartsPlain.append (by decide) _) _
  | object properties => exact Text.StartsPlain.append (Text.StartsPlain.append (by decide) _) _

/-! ## Two replacements compared -/

namespace Text

open Statement

variable {texts : List (List Char)} {before cs : List Char}

/-- What holds before each question mark of a text holds before the first character, if it is one,
and before each behind it. -/
theorem forall_mark_cons (P : List Char → Prop) (before : List Char) (c : Char) (cs : List Char) :
    (∀ first rest, c :: cs = first ++ '?' :: rest → P (before ++ first)) ↔
      (c = '?' → P before) ∧
        ∀ first rest, cs = first ++ '?' :: rest → P (before ++ [c] ++ first) := by
  -- The first mark of the text is its first character or stands behind it.
  constructor
  · intro h
    refine ⟨fun hc => ?_, fun first rest hcs => ?_⟩
    · have hfirst := h [] cs (congrArg (· :: cs) hc)
      rwa [List.append_nil] at hfirst
    · rw [← List.append_cons]
      exact h (c :: first) rest (congrArg (c :: ·) hcs)
  · rintro ⟨hfirst, hbehind⟩ first rest hcs
    cases first with
    | nil =>
      rw [List.append_nil]
      exact hfirst (List.cons.inj hcs).1
    | cons d first =>
      obtain ⟨rfl, hrest⟩ := List.cons.inj hcs
      rw [List.append_cons]
      exact hbehind first rest hrest

/-- Replacing question marks and replacing placeholders comes to the same exactly if each question
mark is a placeholder, up to the last one that is replaced. -/
theorem replaceEach_eq_iff (htexts : ∀ text ∈ texts, StartsPlain text) (before cs : List Char) :
    replaceEach isQuestionMark texts before cs = replaceEach isPlaceholder texts before cs ↔
      ∀ first rest, cs = first ++ '?' :: rest →
        countMarks (before ++ first) < countMarks before + texts.length →
          isPlaceholder (before ++ first) '?' = true := by
  induction cs generalizing texts before with
  | nil => cases texts <;> simp [replaceEach]
  | cons c cs ih =>
    cases texts with
    | nil =>
      refine iff_of_true rfl fun first rest _ hlt => ?_
      exact absurd hlt (Nat.not_lt.2 (countMarks_le_append before first))
    | cons text texts =>
      rw [forall_mark_cons fun b => countMarks b < countMarks before + (text :: texts).length →
        isPlaceholder b '?' = true]
      cases hplaceholder : isPlaceholder before c with
      | true =>
        -- Both replace it, and one text less is left.
        obtain rfl : c = '?' := by
          by_contra hc
          exact Bool.false_ne_true ((isPlaceholder_eq_false hc before).symm.trans hplaceholder)
        have hcount : countMarks (before ++ ['?']) = countMarks before + 1 :=
          beq_iff_eq.1 hplaceholder
        have hrest := ih (List.forall_mem_cons.1 htexts).2 (before ++ ['?'])
        rw [hcount, Nat.add_assoc, Nat.add_comm 1] at hrest
        rw [replaceEach_chosen rfl, replaceEach_chosen hplaceholder, List.append_right_inj, hrest]
        exact (and_iff_right fun _ _ => hplaceholder).symm
      | false =>
        rw [replaceEach_kept hplaceholder]
        by_cases hc : c = '?'
        · -- Only one of the two replaces it, and the text put there starts in another way.
          subst hc
          obtain ⟨d, hd, hne⟩ := htexts text List.mem_cons_self
          obtain ⟨tail, rfl⟩ := List.head?_eq_some_iff.1 hd
          rw [replaceEach_chosen rfl, List.cons_append]
          refine iff_of_false (fun heq => hne (List.cons.inj heq).1) fun hall => ?_
          have hcounted := hall.1 rfl (Nat.lt_add_of_pos_right (Nat.succ_pos texts.length))
          exact Bool.false_ne_true (hplaceholder.symm.trans hcounted)
        · have hrest := ih htexts (before ++ [c])
          rw [countMarks_snoc_of_not hplaceholder] at hrest
          rw [replaceEach_kept (beq_false_of_ne hc), List.cons_inj_right, hrest]
          exact (and_iff_right fun heq => absurd heq hc).symm

end Text

namespace Dialect

open Statement

variable {d : Dialect} {position : Nat}

/-- Inlining replaces question marks, wherever they stand. -/
theorem inlineFrom_eq_replaceEach (hd : d.kind ≠ .postgres) (values : List Value)
    (before cs : List Char) :
    d.inlineFrom position values cs =
      Text.replaceEach isQuestionMark (values.map fun v => (d.literal v).toList) before cs := by
  have hmarker : d.marker = '?' := by
    obtain ⟨mark, hmark⟩ := d.placeholder_eq_marker_cons position
    rw [placeholder_of_ne_postgres hd] at hmark
    exact (List.cons.inj hmark).1.symm
  -- On the text: a mark takes the next value, and every other character is kept.
  induction cs generalizing values position before with
  | nil =>
    cases values with
    | nil => rfl
    | cons v rest =>
      rw [inlineFrom, placeholder_of_ne_postgres hd]
      rfl
  | cons c cs ih =>
    cases values with
    | nil => rfl
    | cons v rest =>
      by_cases hc : c = '?'
      · subst hc
        have hplaceholder := @inlineFrom_placeholder_append d position v rest cs
        rw [placeholder_of_ne_postgres hd] at hplaceholder
        rw [List.map_cons, Text.replaceEach_chosen rfl, ← ih]
        exact hplaceholder
      · have htext : d.marker ∉ [c] := by
          rw [hmarker, List.mem_singleton]
          exact Ne.symm hc
        rw [Text.replaceEach_kept (beq_false_of_ne hc), ← ih]
        exact inlineFrom_text_append htext (v :: rest) cs

/-- Where placeholders are question marks, inlining replaces question marks by the literals of the
values, from the left and wherever they stand. The text in which exactly the placeholders that are
counted are replaced comes out precisely if, as long as fewer of them have been counted than there
are values, each question mark is one. -/
theorem inline_replaced {d : Dialect} (hd : d.kind ≠ .postgres) (s : Statement) :
    d.inline s = s.replaced isQuestionMark (s.values.map d.literal) ∧
    (d.inline s = s.replaced isPlaceholder (s.values.map d.literal) ↔
      ∀ before after, s.sql.toList = before ++ '?' :: after →
        countMarks before < s.binds.length → isPlaceholder before '?' = true) := by
  have hinline : d.inline s = s.replaced isQuestionMark (s.values.map d.literal) := by
    rw [inline, inlineFrom_eq_replaceEach hd s.values [], replaced, List.map_map]
    rfl
  refine ⟨hinline, ?_⟩
  -- A literal never starts with a mark, so that what is put in tells which marks were chosen.
  have htexts : ∀ text ∈ (s.values.map d.literal).map String.toList, Text.StartsPlain text := by
    intro text htext
    obtain ⟨literal, hliteral, rfl⟩ := List.mem_map.1 htext
    obtain ⟨v, -, rfl⟩ := List.mem_map.1 hliteral
    exact d.startsPlain_literal v
  have hlength : ((s.values.map d.literal).map String.toList).length = s.binds.length := by
    rw [List.length_map, List.length_map, Statement.values, List.length_map]
  have hnone : countMarks [] = 0 := by simp [countMarks]
  rw [hinline, replaced, replaced, String.ofList_inj,
    Text.replaceEach_eq_iff htexts [] s.sql.toList, hlength, hnone, Nat.zero_add]
  rfl

/-- Question marks in a string and in a comment, before and behind the one that is counted. -/
theorem inline_replaced_around :
    let d : Dialect := { kind := .mysql, limitOverride := some 3 }
    let s : Statement := ⟨"a = '?' or b = ? -- ?", [.ofValue (.string "?")]⟩
    d.kind ≠ .postgres ∧
      d.inline s = s.replaced isQuestionMark (s.values.map d.literal) ∧
      (d.inline s = s.replaced isPlaceholder (s.values.map d.literal) ↔
        ∀ before after, s.sql.toList = before ++ '?' :: after →
          countMarks before < s.binds.length → isPlaceholder before '?' = true) := by
  intro d s
  have hd : d.kind ≠ .postgres := by decide
  exact ⟨hd, inline_replaced hd s⟩

/-- The question mark of a string is taken for the placeholder behind it. -/
theorem inline_ne_replaced :
    let d : Dialect := {}
    let s : Statement := ⟨"a = '?' and b = ?", [.ofValue (.integer 1)]⟩
    countPlaceholders s.sql = s.binds.length ∧
      s.replaced isPlaceholder (s.values.map d.literal) = "a = '?' and b = 1" ∧
      d.inline s = "a = '1' and b = ?" := by
  decide +kernel

end Dialect

end SqlTemplate
