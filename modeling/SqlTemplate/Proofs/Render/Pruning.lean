import Mathlib.Data.List.TakeWhile
import Mathlib.Tactic.SplitIfs
import SqlTemplate.Render.Prune

/-!
# What pruning takes out of a scope

Pruning takes blanks and letters out of the start of a scope and nothing else: a text that vanishes
is made of them (`isBlankOrLetter_of_pruneChars_eq_none`), and a text that is changed keeps all
behind the start (`pruneChars_eq_some`).
-/

namespace SqlTemplate

/-- A blank or an ASCII letter: a character that pruning may take out. -/
def isBlankOrLetter (c : Char) : Bool :=
  Text.isBlank c || c.isAlpha

/-- A character with a letter for its lower case is a letter. -/
theorem isAlpha_of_isAlpha_toLower {c : Char} (h : c.toLower.isAlpha = true) :
    c.isAlpha = true := by
  unfold Char.toLower at h
  split_ifs at h with hupper
  · -- Only capitals have another lower case.
    have hletter : c.isUpper = true := decide_eq_true hupper
    show (c.isUpper || c.isLower) = true
    rw [hletter, Bool.true_or]
  · exact h

/-- A word that some words of letters list, in any case, is made of letters. -/
theorem isAlpha_of_contains_lower {words : List String} {word : List Char}
    (hwords : (words.all fun w => w.toList.all Char.isAlpha) = true)
    (h : words.contains (String.ofList (word.map Char.toLower)) = true) :
    ∀ c ∈ word, c.isAlpha = true := by
  intro c hc
  have hlower : c.toLower.isAlpha = true := by
    have hletters := List.all_eq_true.1 hwords _ (List.contains_iff_mem.1 h)
    rw [String.toList_ofList] at hletters
    exact List.all_eq_true.1 hletters _ (List.mem_map_of_mem hc)
  exact isAlpha_of_isAlpha_toLower hlower

/-- A clause keyword is made of letters. -/
theorem isAlpha_of_isClauseKeyword {word : List Char} (h : isClauseKeyword word = true) :
    ∀ c ∈ word, c.isAlpha = true :=
  isAlpha_of_contains_lower (by decide) h

/-- A connector is made of letters. -/
theorem isAlpha_of_isConnector {word : List Char} (h : isConnector word = true) :
    ∀ c ∈ word, c.isAlpha = true :=
  isAlpha_of_contains_lower (by decide) h

/-- The blanks that a text starts with are blanks. -/
theorem isBlank_of_mem_splitBlanks {c : Char} {text : List Char}
    (h : c ∈ (splitBlanks text).1) : Text.isBlank c = true :=
  List.all_eq_true.1 (List.all_takeWhile) c h

section

variable {text : List Char}

/-- A word of letters is made of blanks and letters. -/
theorem isBlankOrLetter_of_isAlpha (h : ∀ c ∈ text, c.isAlpha = true) :
    ∀ c ∈ text, isBlankOrLetter c = true := by
  intro c hc
  rw [isBlankOrLetter, h c hc, Bool.or_true]

/-- So are the blanks that a text starts with. -/
theorem isBlankOrLetter_splitBlanks : ∀ c ∈ (splitBlanks text).1, isBlankOrLetter c = true := by
  intro c hc
  rw [isBlankOrLetter, isBlank_of_mem_splitBlanks hc, Bool.true_or]

end

/-- A text cut where pruning looks at it; each part may be empty. -/
structure Opening where
  /-- The blanks before the first word. -/
  lead : List Char
  /-- The first word. -/
  keyword : List Char
  /-- The blanks behind it. -/
  gap : List Char
  /-- The second word. -/
  connector : List Char
  /-- The blanks behind that. -/
  space : List Char
  /-- All that follows. -/
  remaining : List Char

namespace Opening

/-- The parts of a text. -/
def of (text : List Char) : Opening :=
  let (lead, body) := splitBlanks text
  let (keyword, afterKeyword) := splitWord body
  let (gap, rest) := splitBlanks afterKeyword
  let (connector, afterConnector) := splitWord rest
  let (space, remaining) := splitBlanks afterConnector
  ⟨lead, keyword, gap, connector, space, remaining⟩

/-- What stands before the rest of the text. -/
def start (o : Opening) : List Char :=
  o.lead ++ o.keyword ++ o.gap ++ o.connector ++ o.space

/-- What a start with a connector is reduced to: the gap is kept for its line break only. -/
def reduced (o : Opening) : List Char :=
  o.lead ++ o.keyword ++ if o.gap.contains '\n' then o.gap else [' ']

/-- The parts make up the text. -/
theorem start_append_remaining (text : List Char) :
    (of text).start ++ (of text).remaining = text := by
  have hbody := splitBlanks_append text
  have hkeyword := splitWord_append (splitBlanks text).2
  have hrest := splitBlanks_append (splitWord (splitBlanks text).2).2
  have hconnector := splitWord_append (splitBlanks (splitWord (splitBlanks text).2).2).2
  have hremaining :=
    splitBlanks_append (splitWord (splitBlanks (splitWord (splitBlanks text).2).2).2).2
  simp only [start, of, List.append_assoc]
  rw [hremaining, hconnector, hrest, hkeyword, hbody]

/-- Pruning by the parts of the text. -/
theorem pruneChars_eq (text : List Char) :
    pruneChars text =
      if isClauseKeyword (of text).keyword then
        if isConnector (of text).connector then
          if (of text).remaining.isEmpty then none
          else some ((of text).reduced ++ (of text).remaining)
        else if ((of text).connector ++ (of text).space ++ (of text).remaining).isEmpty then none
        else some text
      else if text.all Text.isBlank then none
      else some text := by
  -- The two tests of the definition for an empty rest, in terms of the parts.
  have hbody : (splitBlanks text).2.isEmpty = text.all Text.isBlank := by
    rw [Bool.eq_iff_iff, List.isEmpty_iff, List.all_eq_true]
    exact List.dropWhile_eq_nil_iff
  have hrest : ((of text).connector ++ (of text).space ++ (of text).remaining).isEmpty =
      (splitBlanks (splitWord (splitBlanks text).2).2).2.isEmpty := by
    simp only [of, List.append_assoc]
    rw [splitBlanks_append, splitWord_append]
  rw [hrest, ← hbody]
  simp only [pruneChars, of, reduced]
  by_cases hempty : (splitBlanks text).2.isEmpty = true
  · -- Without a body there is no first word either.
    have hkeyword : isClauseKeyword (splitWord (splitBlanks text).2).1 = false := by
      rw [List.isEmpty_iff.1 hempty]
      decide
    simp only [hempty, hkeyword, if_true, Bool.false_eq_true, if_false]
  · by_cases hkeyword : isClauseKeyword (splitWord (splitBlanks text).2).1 = true
    · simp only [hempty, hkeyword, if_true, if_false, Bool.not_true, Bool.false_eq_true]
      by_cases hafter : (splitBlanks (splitWord (splitBlanks text).2).2).2.isEmpty = true
      · -- Without a second word there is no connector.
        have hconnector : isConnector
            (splitWord (splitBlanks (splitWord (splitBlanks text).2).2).2).1 = false := by
          rw [List.isEmpty_iff.1 hafter]
          decide
        simp only [hafter, hconnector, if_true, Bool.false_eq_true, if_false]
      · simp only [hafter, Bool.not_eq_true', Bool.false_eq_true, if_false]
        split_ifs <;> simp_all
    · simp only [hempty, hkeyword, if_true, if_false, Bool.not_false, Bool.false_eq_true]

/-- A start with a keyword and a connector is made of blanks and letters, and so is what it is
reduced to. -/
theorem isBlankOrLetter_start {text : List Char}
    (hkeyword : isClauseKeyword (of text).keyword = true)
    (hconnector : ∀ c ∈ (of text).connector, c.isAlpha = true) :
    (∀ c ∈ (of text).start, isBlankOrLetter c = true) ∧
      ∀ c ∈ (of text).reduced, isBlankOrLetter c = true := by
  have hlead : ∀ c ∈ (of text).lead, isBlankOrLetter c = true := isBlankOrLetter_splitBlanks
  have hword : ∀ c ∈ (of text).keyword, isBlankOrLetter c = true :=
    isBlankOrLetter_of_isAlpha (isAlpha_of_isClauseKeyword hkeyword)
  have hgap : ∀ c ∈ (of text).gap, isBlankOrLetter c = true := isBlankOrLetter_splitBlanks
  have hsecond : ∀ c ∈ (of text).connector, isBlankOrLetter c = true :=
    isBlankOrLetter_of_isAlpha hconnector
  have hspace : ∀ c ∈ (of text).space, isBlankOrLetter c = true := isBlankOrLetter_splitBlanks
  constructor
  · simp only [start, List.forall_mem_append]
    exact ⟨⟨⟨⟨hlead, hword⟩, hgap⟩, hsecond⟩, hspace⟩
  · simp only [reduced, List.forall_mem_append]
    refine ⟨⟨hlead, hword⟩, ?_⟩
    split_ifs
    · exact hgap
    · exact List.forall_mem_singleton.2 (by decide)

end Opening

/-- A text that vanishes is made of blanks and letters. -/
theorem isBlankOrLetter_of_pruneChars_eq_none {text : List Char} (h : pruneChars text = none) :
    ∀ c ∈ text, isBlankOrLetter c = true := by
  have hparts := Opening.start_append_remaining text
  rw [Opening.pruneChars_eq] at h
  split_ifs at h with hkeyword hconnector hempty hempty hblank
  -- The text is a keyword and a connector, or a keyword alone, or it is blank.
  · have hstart := (Opening.isBlankOrLetter_start hkeyword (isAlpha_of_isConnector hconnector)).1
    rw [List.isEmpty_iff.1 hempty, List.append_nil] at hparts
    rwa [hparts] at hstart
  · simp only [List.isEmpty_iff, List.append_eq_nil_iff] at hempty
    obtain ⟨⟨hconnector, -⟩, hremaining⟩ := hempty
    have hstart := (Opening.isBlankOrLetter_start hkeyword (by simp [hconnector])).1
    rw [hremaining, List.append_nil] at hparts
    rwa [hparts] at hstart
  · intro c hc
    rw [isBlankOrLetter, List.all_eq_true.1 hblank c hc, Bool.true_or]

/-- A text that contributes does so as it is, or with its start reduced; the start and what it is
reduced to are made of blanks and letters. -/
theorem pruneChars_eq_some {text out : List Char} (h : pruneChars text = some out) :
    out = text ∨ out = (Opening.of text).reduced ++ (Opening.of text).remaining ∧
      (∀ c ∈ (Opening.of text).start, isBlankOrLetter c = true) ∧
      ∀ c ∈ (Opening.of text).reduced, isBlankOrLetter c = true := by
  rw [Opening.pruneChars_eq] at h
  split_ifs at h with hkeyword hconnector
  · have hstart := Opening.isBlankOrLetter_start hkeyword (isAlpha_of_isConnector hconnector)
    exact Or.inr ⟨(Option.some.inj h).symm, hstart⟩
  · exact Or.inl (Option.some.inj h).symm
  · exact Or.inl (Option.some.inj h).symm

end SqlTemplate
