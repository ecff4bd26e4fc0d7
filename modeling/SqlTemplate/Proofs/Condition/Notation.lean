import Mathlib
import SqlTemplate.Proofs.Condition.RoundTrip
import SqlTemplate.Proofs.Path
import SqlTemplate.Proofs.Template.Pieces

/-!
# Paths in comments and in conditions

A path is written in two places, as the comment of a variable and in a condition, and each of them
has its own notion of what a path looks like. A comment takes ASCII letters, digits, `_` and `#` in
any order between points, as long as it does not start with a digit; a condition takes names, which
are words of letters and numerals of any script that do not start with a numeral, with `#` at most
in front, and that are no literals. `Path.boundBy_iff_askedBy` says how far the two agree.

What a condition reads as a name is one (`ConditionToken.isName_of_mem_scan`), and names put
together with points are read as their path (`Path.IsLexable.parse`).
-/

namespace SqlTemplate

open ConditionToken

/-! ## Names in a condition -/

namespace ConditionToken

variable {c : Char} {cs rest : List Char} {name : String}

/-- Only a word that is no literal is an identifier. -/
theorem eq_of_ofWord (h : ofWord cs = identifier name) :
    name.toList = cs ∧ name ∉ ["true", "false", "null"] := by
  unfold ofWord at h
  split at h
  · cases h
  · cases h
  · cases h
  · next htrue hfalse hnull =>
    cases h
    refine ⟨String.toList_ofList, ?_⟩
    simp only [List.mem_cons, List.not_mem_nil, or_false, not_or]
    exact ⟨htrue, hfalse, hnull⟩

/-- What is read as an identifier is a name. -/
theorem isName_of_read (h : read c cs = .ok (identifier name, rest)) : IsName name := by
  have hdouble : ∀ {d t}, double d t cs = .ok (identifier name, rest) → t = identifier name := by
    intro d t hd
    unfold double at hd
    split at hd
    · simp at hd
    · split_ifs at hd
      exact (Prod.mk.inj (Except.ok.inj hd)).1
  unfold read at h
  split at h
  -- All but the last case are signs, strings and negative numbers.
  case h_1 => split at h <;> simp at h
  case h_2 | h_3 | h_4 => exact absurd (hdouble h) (by simp)
  case h_5 | h_6 | h_7 => split at h <;> simp at h
  case h_8 | h_9 | h_10 => simp at h
  case h_11 =>
    dsimp only at h
    split_ifs at h
    simp at h
  case h_12 =>
    split_ifs at h with hdigit hstart
    · simp at h
    · obtain ⟨hword, -⟩ := Prod.mk.inj (Except.ok.inj h)
      obtain ⟨hlist, hliteral⟩ := eq_of_ofWord hword
      exact ⟨c, _, hlist, hstart, fun d hd => List.mem_takeWhile_imp hd, hliteral⟩

/-- The identifiers of a text are names. -/
theorem isName_of_mem_scan {tokens : List ConditionToken} (h : scan cs = .ok tokens)
    (hname : identifier name ∈ tokens) : IsName name := by
  fun_induction scan cs generalizing tokens with
  | case1 =>
    obtain rfl := Except.ok.inj h
    exact absurd hname List.not_mem_nil
  | case2 c cs hblank ih => exact ih h hname
  | case3 => simp at h
  | case4 => simp at h
  | case5 c cs hblank t rest hread _ ts hscan ih =>
    obtain rfl := Except.ok.inj h
    rcases List.mem_cons.1 hname with rfl | hmem
    · exact isName_of_read hread
    · exact ih hscan hmem

end ConditionToken

/-- The segments of a path that makes up a condition are among its tokens. -/
theorem Expr.Derives.mem_of_path {rule : Rule} {tokens : List ConditionToken} {p : Path}
    (h : Derives rule tokens (.operand (.path p))) :
    ∀ segment ∈ p.segments, identifier segment ∈ tokens := by
  -- On the derivation: what is not an operand by itself holds one between brackets or is none.
  generalize he : Expr.operand (.path p) = e at h
  induction h with
  | disjunction _ ih | conjunction _ ih | negation _ ih => exact ih he
  | or | and | not | compare => cases he
  | group _ ih =>
    intro segment hsegment
    exact List.mem_append_left _ (List.mem_cons_of_mem _ (ih he segment hsegment))
  | operand h =>
    cases he
    cases h
    refine List.forall_mem_cons.2 ⟨List.mem_cons_self, fun segment hsegment => ?_⟩
    refine List.mem_cons_of_mem _ (List.mem_flatMap.2 ⟨segment, hsegment, ?_⟩)
    exact List.mem_cons_of_mem _ List.mem_cons_self

namespace Path

variable {p : Path} {text : String}

/-- Names behind points are spelled without gaps. -/
theorem spreads_below {below : List String} (h : ∀ segment ∈ below, IsName segment) :
    Spreads (below.flatMap fun segment => [dot, identifier segment])
      (below.flatMap fun segment => '.' :: segment.toList) := by
  have hnone : ∀ c ∈ ([] : List Char), Text.isBlank c = true := nofun
  induction below with
  | nil => exact .nil hnone
  | cons segment below ih =>
    obtain ⟨hsegment, hbelow⟩ := List.forall_mem_cons.1 h
    have hspread := Spreads.cons hnone .dot (.cons hnone (.identifier hsegment) (ih hbelow))
    simpa using hspread

/-- Names with points between them are spelled by the text of their path. -/
theorem IsLexable.spreads (h : p.IsLexable) : Spreads (Operand.pathTokens p) p.text.toList := by
  obtain ⟨hroot, hbelow⟩ := List.forall_mem_cons.1 h
  have hnone : ∀ c ∈ ([] : List Char), Text.isBlank c = true := nofun
  rw [toList_text]
  exact .cons hnone (.identifier hroot) (spreads_below hbelow)

/-- The text of a path of names is read as this path. -/
theorem IsLexable.parse (h : p.IsLexable) : Expr.parse p.text = .ok (.operand (.path p)) := by
  have hparse := (Expr.operand (.path p)).derives_tokens.parse h.spreads
  rwa [String.ofList_toList] at hparse

/-- A text that is read as a path is a path of names. -/
theorem isLexable_of_parse (h : Expr.parse text = .ok (.operand (.path p))) : p.IsLexable := by
  obtain ⟨tokens, hscan, hderives⟩ := Expr.parse_eq_ok_iff.1 h
  exact fun segment hsegment => isName_of_mem_scan hscan (hderives.mem_of_path segment hsegment)

end Path

/-! ## ASCII characters -/

/-- A letter or a digit in the sense of comments is an ASCII character. -/
theorem Text.toNat_lt_of_isAlphanum {c : Char} (h : c.isAlphanum = true) : c.toNat < 128 := by
  simp only [Char.isAlphanum, Char.isAlpha, Char.isUpper, Char.isLower, Char.isDigit,
    Bool.or_eq_true, Bool.and_eq_true, decide_eq_true_eq, ge_iff_le, UInt32.le_iff_toNat_le] at h
  have hupper : 'Z'.val.toNat = 90 := rfl
  have hlower : 'z'.val.toNat = 122 := rfl
  have hdigit : '9'.val.toNat = 57 := rfl
  rw [Char.toNat]
  omega

namespace ConditionToken

variable {c : Char} {name : String}

/-- Of the ASCII characters, a name starts with those that a variable starts with. -/
theorem startsIdentifier_eq (hc : c.toNat < 128) :
    startsIdentifier c = (c.isAlpha || c == '_' || c == '#') := by
  rw [startsIdentifier, Text.isLetter_eq_isAlpha hc]

/-- It goes on with those that a variable goes on with, but for points and `#`. -/
theorem continuesIdentifier_eq (hc : c.toNat < 128) :
    continuesIdentifier c = (c.isAlphanum || c == '_') := by
  rw [continuesIdentifier, Text.isLetter_eq_isAlpha hc, Text.isNumeral_eq_isDigit hc,
    Char.isAlphanum]

/-- The ASCII characters of a name are allowed in a variable. -/
theorem IsName.allowed (h : IsName name) (hc : c ∈ name.toList) (hascii : c.toNat < 128) :
    c.isAlphanum = true ∨ c = '_' ∨ c = '#' := by
  obtain ⟨first, rest, hlist, hstart, hrest, -⟩ := h
  rw [hlist] at hc
  rcases List.mem_cons.1 hc with rfl | hmem
  · rw [startsIdentifier_eq hascii] at hstart
    simp only [Bool.or_eq_true, beq_iff_eq] at hstart
    simp only [Char.isAlphanum, Bool.or_eq_true]
    tauto
  · have hcontinue := hrest c hmem
    rw [continuesIdentifier_eq hascii, Bool.or_eq_true, beq_iff_eq] at hcontinue
    exact hcontinue.imp_right .inl

/-- A name holds no point. -/
theorem IsName.point_notMem (h : IsName name) : '.' ∉ name.toList := by
  intro hpoint
  exact absurd (h.allowed hpoint (by decide)) (by decide)

end ConditionToken

/-! ## Variables in comments -/

namespace Directive

/-- The words that are directives by themselves. -/
def words : List String :=
  ["BEGIN", "END", "FIRST", "LAST", "IF", "FOR", "NEXT"]

/-- A comment is a variable that is bound if it is spelled as a variable and is no other
directive. -/
theorem classify?_eq_reference_iff {text : String} :
    classify? text.toList = some (.reference false text.toList) ↔
      isVariable text.toList = true ∧ text ∉ words := by
  constructor
  · intro h
    refine ⟨(eq_of_classify?_reference h).1, fun hword => ?_⟩
    have hwords : ∀ word ∈ words,
        classify? word.toList ≠ some (.reference false word.toList) := by decide
    exact hwords text hword h
  · rintro ⟨hvariable, hword⟩
    have hchars := forall_of_isVariable hvariable
    -- All directives with a payload have a blank behind their keyword.
    have hblank : ' ' ∉ text.toList := fun hmem => absurd (hchars _ hmem) (by decide)
    have hpayload : ∀ keyword, payload? keyword text.toList = none := by
      intro keyword
      refine if_neg fun hkeyword => hblank ?_
      exact (List.isPrefixOf_iff_prefix.1 hkeyword).subset (by simp)
    have hne : ∀ word ∈ words, text.toList ≠ word.toList := fun word hmem heq =>
      hword (String.toList_inj.1 heq ▸ hmem)
    simp only [words, List.forall_mem_cons] at hne
    obtain ⟨hbegin, hend, hfirst, hlast, hif, hfor, hnext, -⟩ := hne
    have hkeyword : keyword? text.toList = none := by
      rw [keyword?, if_neg hbegin, if_neg hend, if_neg hfirst, if_neg hlast]
    have hwith : withPayload? text.toList = none := by
      rw [withPayload?, if_neg hif, if_neg hfor, if_neg hnext, hpayload, hpayload, hpayload]
      rfl
    have hreference : reference? text.toList = some (.reference false text.toList) := by
      unfold reference?
      split
      · next path hpath =>
        rw [hpath, isVariable] at hvariable
        exact absurd hvariable (by simp)
      · exact if_pos hvariable
    rw [classify?, hkeyword, hwith, hreference]
    rfl

end Directive

/-! ## The two notations -/

namespace Path

open Directive

variable {p : Path} {text : String}

/-- A comment with this text is a variable that is bound, and its path is `p`. -/
def IsBoundBy (p : Path) (text : String) : Prop :=
  classify? text.toList = some (.reference false text.toList) ∧ parse? text = some p

/-- The text is a condition that asks for the value of the path `p` and nothing else. -/
def IsAskedBy (p : Path) (text : String) : Prop :=
  Expr.parse text = .ok (.operand (.path p))

/-- No segment starts with a digit or is a literal, and each has `#` in front or not at all. -/
def IsWorded (p : Path) : Prop :=
  ∀ segment ∈ p.segments, segment.toList.head?.any Char.isDigit = false ∧
    '#' ∉ segment.toList.tail ∧ segment ∉ ["true", "false", "null"]

/-- Each segment is looked at. -/
instance : Decidable p.IsWorded :=
  inferInstanceAs (Decidable (∀ segment ∈ p.segments, _))

/-- Every character of a segment is one of the text. -/
theorem toList_subset_text {segment : String} (h : segment ∈ p.segments) :
    segment.toList ⊆ p.text.toList := by
  intro c hc
  rw [toList_text]
  rcases List.mem_cons.1 h with rfl | hbelow
  · exact List.mem_append_left _ hc
  · exact List.mem_append_right _
      (List.mem_flatMap.2 ⟨segment, hbelow, List.mem_cons_of_mem _ hc⟩)

/-- A path whose segments are names is worded. -/
theorem IsLexable.isWorded (h : p.IsLexable) : p.IsWorded := by
  intro segment hsegment
  obtain ⟨c, cs, hlist, hstart, hcs, hliteral⟩ := h segment hsegment
  rw [hlist]
  have hhash : '#' ∉ cs := fun hmem => absurd (hcs '#' hmem) (by decide)
  refine ⟨show c.isDigit = false from ?_, hhash, hliteral⟩
  by_contra hdigit
  rw [(facts_of_isDigit (eq_true_of_ne_false hdigit)).1] at hstart
  exact Bool.false_ne_true hstart

/-- Segments that are worded and hold what a variable may hold are names. -/
theorem IsWorded.isLexable (h : p.IsWorded) (hdotted : p.IsDotted)
    (hvariable : isVariable p.text.toList = true) : p.IsLexable := by
  intro segment hsegment
  obtain ⟨hne, hpoint⟩ := hdotted segment hsegment
  obtain ⟨hdigit, hhash, hliteral⟩ := h segment hsegment
  -- The text holds every character of the segment, and the segment no point.
  have hallowed : ∀ c ∈ segment.toList, c.isAlphanum = true ∨ c = '_' ∨ c = '#' := by
    intro c hc
    have hnot : c ≠ '.' := ne_of_mem_of_not_mem hc hpoint
    have hchar := forall_of_isVariable hvariable c (toList_subset_text hsegment hc)
    tauto
  obtain ⟨c, cs, hlist⟩ : ∃ c cs, segment.toList = c :: cs :=
    List.exists_cons_of_ne_nil fun hnil => hne (String.toList_inj.1 hnil)
  rw [hlist] at hallowed hdigit hhash
  obtain ⟨hfirst, hrest⟩ := List.forall_mem_cons.1 hallowed
  refine ⟨c, cs, hlist, ?_, fun d hd => ?_, hliteral⟩
  · replace hdigit : c.isDigit = false := hdigit
    rcases hfirst with halpha | rfl | rfl
    · rw [startsIdentifier_eq (Text.toNat_lt_of_isAlphanum halpha)]
      rw [Char.isAlphanum, hdigit, Bool.or_false] at halpha
      rw [halpha]
      rfl
    · decide
    · decide
  · rcases hrest d hd with halpha | rfl | rfl
    · rw [continuesIdentifier_eq (Text.toNat_lt_of_isAlphanum halpha), halpha]
      rfl
    · decide
    · exact absurd hd hhash

/-- Names are not empty and hold no points. -/
theorem IsLexable.isDotted (h : p.IsLexable) : p.IsDotted := by
  intro segment hsegment
  refine ⟨?_, (h segment hsegment).point_notMem⟩
  rintro rfl
  obtain ⟨c, cs, hlist, -⟩ := h "" hsegment
  exact absurd hlist (by simp)

/-- Names put together are spelled as a variable if they are written in ASCII. -/
theorem IsLexable.isVariable_iff (h : p.IsLexable) :
    isVariable p.text.toList = true ↔ ∀ c ∈ p.text.toList, c.toNat < 128 := by
  constructor
  · intro hvariable c hc
    rcases forall_of_isVariable hvariable c hc with halpha | rfl | rfl | rfl
    · exact Text.toNat_lt_of_isAlphanum halpha
    all_goals decide
  · intro hascii
    -- Each character is one of a name or a point between two names.
    have hchars : ∀ c ∈ p.text.toList, c.isAlphanum = true ∨ c = '_' ∨ c = '.' ∨ c = '#' := by
      intro c hc
      have hname : ∀ segment ∈ p.segments, c ∈ segment.toList →
          c.isAlphanum = true ∨ c = '_' ∨ c = '.' ∨ c = '#' := fun segment hsegment hmem =>
        ((h segment hsegment).allowed hmem (hascii c hc)).imp_right (Or.imp_right .inr)
      rw [toList_text] at hc
      rcases List.mem_append.1 hc with hroot | hbelow
      · exact hname p.root List.mem_cons_self hroot
      · obtain ⟨segment, hsegment, hmem⟩ := List.mem_flatMap.1 hbelow
        rcases List.mem_cons.1 hmem with rfl | hmem
        · exact .inr (.inr (.inl rfl))
        · exact hname segment (List.mem_cons_of_mem _ hsegment) hmem
    obtain ⟨c, cs, hlist, hstart, -⟩ := h p.root List.mem_cons_self
    rw [toList_text, hlist, List.cons_append] at hascii hchars ⊢
    rw [startsIdentifier_eq (hascii c List.mem_cons_self)] at hstart
    rw [isVariable, hstart, Bool.true_and, List.all_eq_true]
    intro d hd
    simpa [or_assoc] using hchars d (List.mem_cons_of_mem _ hd)

/-- A text that is bound as a path asks in a condition for the same path exactly if its segments are
words that start with no digit, have `#` only in front and are no literals. A text that asks for the
path that it spells is bound as the same path exactly if it is written in ASCII and is none of the
words that are directives by themselves. -/
theorem boundBy_iff_askedBy (p : Path) (text : String) :
    (p.IsBoundBy text → (p.IsAskedBy text ↔ p.IsWorded)) ∧
    (p.IsAskedBy text → p.text = text →
      (p.IsBoundBy text ↔ (∀ c ∈ text.toList, c.toNat < 128) ∧ text ∉ words)) := by
  constructor
  · intro hbound
    obtain ⟨hdotted, rfl⟩ := parse?_eq_some_iff.1 hbound.2
    exact ⟨fun hasked => (isLexable_of_parse hasked).isWorded,
      fun hworded => (hworded.isLexable hdotted (eq_of_classify?_reference hbound.1).1).parse⟩
  · rintro hasked rfl
    have hlexable := isLexable_of_parse hasked
    have hparse : parse? p.text = some p := parse?_eq_some_iff.2 ⟨hlexable.isDotted, rfl⟩
    rw [IsBoundBy, classify?_eq_reference_iff, hlexable.isVariable_iff, and_iff_left hparse]

/-- A loop variable is read alike in both places, and so is a property whose name is a keyword of
loops in small letters. -/
theorem boundBy_iff_askedBy_shared :
    IsAskedBy ⟨"#current", ["user_id"]⟩ "#current.user_id" ∧
      IsBoundBy ⟨"pmb", ["first"]⟩ "pmb.first" := by
  have hbound : IsBoundBy ⟨"#current", ["user_id"]⟩ "#current.user_id" :=
    ⟨by decide +kernel, by decide +kernel⟩
  have hasked : IsAskedBy ⟨"pmb", ["first"]⟩ "pmb.first" := by
    unfold IsAskedBy
    cbv
  have hascii : ∀ c ∈ "pmb.first".toList, c.toNat < 128 := by
    rw [← List.forall_iff_forall_mem]
    decide
  exact ⟨((boundBy_iff_askedBy _ _).1 hbound).2 (by decide),
    ((boundBy_iff_askedBy _ _).2 hasked rfl).2 ⟨hascii, by decide⟩⟩

/-- A comment binds the property `null`, a name with `#` inside and a segment that starts with a
digit, which a condition reads as a literal or not at all. A condition asks for a property with a
name outside of ASCII, which in a comment is prose. -/
theorem boundBy_ne_askedBy :
    (IsBoundBy ⟨"null", []⟩ "null" ∧
      Expr.parse "null" = .ok (.operand (.literal .null))) ∧
    (IsBoundBy ⟨"a#b", []⟩ "a#b" ∧
      Expr.parse "a#b" =
        .error (.unexpected .endOfExpression (.token (identifier "#b")))) ∧
    (IsBoundBy ⟨"a", ["1"]⟩ "a.1" ∧
      Expr.parse "a.1" = .error (.unexpected .propertyName (.token (number "1")))) ∧
    IsAskedBy ⟨"é", []⟩ "é" ∧ Path.text ⟨"é", []⟩ = "é" ∧ classify? "é".toList = none := by
  refine ⟨⟨⟨?_, ?_⟩, ?_⟩, ⟨⟨?_, ?_⟩, ?_⟩, ⟨⟨?_, ?_⟩, ?_⟩, ?_, rfl, ?_⟩
  case refine_3 | refine_6 | refine_9 => cbv
  case refine_10 =>
    unfold IsAskedBy
    cbv
  all_goals decide +kernel

end Path

end SqlTemplate
