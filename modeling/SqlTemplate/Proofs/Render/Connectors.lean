import SqlTemplate.Proofs.Render.Pruning
import SqlTemplate.Text.Search

/-!
# Keywords and connectors at the start of a scope

The texts that pruning tells apart, by what they begin with. `Vacant` are the texts that it drops:
blanks, a lone clause keyword, and a keyword with a lone connector behind it. A `Dangling` start is
a keyword with a connector directly behind it; where a text goes on behind such a start, pruning
takes the connector out (`pruneChars_dangling`). Every text is one of these or stays as it is
(`pruneChars_cases`).

One connector is taken out and no more. What is left begins with another one exactly if two of them
stood behind the keyword (`DanglesTwice`), and only then would pruning change it again
(`dangles_pruneChars_iff`).
-/

namespace SqlTemplate

/-- The text holds nothing but blanks. -/
def AllBlank (cs : List Char) : Prop :=
  ∀ c ∈ cs, Text.isBlank c = true

/-- Each character is looked at. -/
instance (cs : List Char) : Decidable (AllBlank cs) :=
  decidable_of_iff (cs.all Text.isBlank = true) List.all_eq_true

/-- A word that stands before this text ends there: nothing follows, or a blank or an opening
parenthesis does. -/
def WordEnds (rest : List Char) : Prop :=
  ∀ c ∈ rest.head?, endsClauseWord c = true

/-- The first character decides. -/
instance : (rest : List Char) → Decidable (WordEnds rest)
  | [] => isTrue nofun
  | c :: _ => decidable_of_iff (endsClauseWord c = true) (by simp [WordEnds])

/-- A clause keyword with blanks before it and, behind a gap, a connector that joins nothing. -/
structure Dangling where
  /-- The blanks before the keyword. -/
  lead : List Char
  /-- The keyword. -/
  keyword : List Char
  /-- The blanks behind it. -/
  gap : List Char
  /-- The connector. -/
  connector : List Char
  /-- The keyword stands behind blanks only. -/
  lead_blank : AllBlank lead
  /-- It is one. -/
  keyword_isClauseKeyword : isClauseKeyword keyword = true
  /-- There is a gap. -/
  gap_ne_nil : gap ≠ []
  /-- The connector stands behind blanks only. -/
  gap_blank : AllBlank gap
  /-- It is one. -/
  connector_isConnector : isConnector connector = true

namespace Dangling

/-- The start as it is written. -/
def text (o : Dangling) : List Char :=
  o.lead ++ o.keyword ++ o.gap ++ o.connector

/-- The gap once the connector is taken out: it stays for its line break only. -/
def gapKept (o : Dangling) : List Char :=
  if '\n' ∈ o.gap then o.gap else [' ']

/-- The start without its connector. -/
def kept (o : Dangling) : List Char :=
  o.lead ++ o.keyword ++ o.gapKept

/-- There is a gap still. -/
theorem gapKept_ne_nil (o : Dangling) : o.gapKept ≠ [] := by
  unfold gapKept
  split_ifs
  · exact o.gap_ne_nil
  · exact List.cons_ne_nil _ _

/-- The gap that is kept is blank. -/
theorem gapKept_blank (o : Dangling) : AllBlank o.gapKept := by
  unfold gapKept
  split_ifs
  · exact o.gap_blank
  · exact List.forall_mem_singleton.2 (by decide)

end Dangling

/-- The text begins with a clause keyword and a connector directly behind it. -/
def Dangles (cs : List Char) : Prop :=
  ∃ (o : Dangling) (rest : List Char), cs = o.text ++ rest ∧ WordEnds rest

/-- The text begins with a clause keyword and two connectors, one directly behind the other. -/
def DanglesTwice (cs : List Char) : Prop :=
  ∃ (o : Dangling) (space connector rest : List Char),
    cs = o.text ++ space ++ connector ++ rest ∧ space ≠ [] ∧ AllBlank space ∧
      isConnector connector = true ∧ WordEnds rest

/-- The text is a clause keyword with blanks around it. -/
def LoneKeyword (cs : List Char) : Prop :=
  ∃ lead keyword tail : List Char, cs = lead ++ keyword ++ tail ∧ AllBlank lead ∧
    isClauseKeyword keyword = true ∧ AllBlank tail

/-- The text holds nothing that a clause keyword could introduce. -/
inductive Vacant : List Char → Prop
  /-- Blanks. -/
  | blank {cs : List Char} (hblank : AllBlank cs) : Vacant cs
  /-- A lone clause keyword. -/
  | keyword {cs : List Char} (hlone : LoneKeyword cs) : Vacant cs
  /-- A clause keyword and a connector with blanks around them. -/
  | connector (o : Dangling) {tail : List Char} (htail : AllBlank tail) : Vacant (o.text ++ tail)

/-! ## Words and blanks -/

variable {cs lead keyword gap connector rest space : List Char}

/-- No letter ends a word. -/
theorem endsClauseWord_of_isAlpha {c : Char} (h : c.isAlpha = true) : endsClauseWord c = false := by
  have hcode : 65 ≤ c.toNat ∧ c.toNat ≤ 90 ∨ 97 ≤ c.toNat ∧ c.toNat ≤ 122 := by
    delta Char.isAlpha Char.isUpper Char.isLower at h
    simpa [UInt32.le_iff_toNat_le, ← Char.toNat_val] using h
  have hparen : c ≠ '(' := by
    rintro rfl
    exact absurd h (by decide)
  have hblank : Text.isBlank c = false := by
    by_contra hc
    simp only [Text.isBlank, Bool.not_eq_false, Bool.or_eq_true, Bool.and_eq_true,
      decide_eq_true_eq, beq_iff_eq] at hc
    omega
  rw [endsClauseWord, hblank, Bool.false_or]
  exact beq_eq_false_iff_ne.2 hparen

/-- No character at all is a run of blanks. -/
theorem allBlank_nil : AllBlank [] :=
  nofun

/-- No text of blanks goes on with a word. -/
theorem AllBlank.wordEnds (h : AllBlank cs) : WordEnds cs := by
  intro c hc
  rw [endsClauseWord, h c (List.mem_of_mem_head? hc), Bool.true_or]

/-- A word ends before a gap. -/
theorem AllBlank.wordEnds_append (h : AllBlank gap) (hne : gap ≠ []) (rest : List Char) :
    WordEnds (gap ++ rest) := by
  obtain ⟨c, tail, rfl⟩ := List.exists_cons_of_ne_nil hne
  exact h.wordEnds

/-- Blanks that a word follows are cut off before it. -/
theorem splitBlanks_append_of_word (hlead : AllBlank lead)
    (hrest : ∀ c ∈ rest.head?, Text.isBlank c = false) :
    splitBlanks (lead ++ rest) = (lead, rest) :=
  Prod.ext (Text.takeWhile_append_of_stop hlead hrest).1
    (Text.takeWhile_append_of_stop hlead hrest).2

/-- A word of letters is cut off where it ends. -/
theorem splitWord_append_of_ends (hword : ∀ c ∈ keyword, c.isAlpha = true) (hrest : WordEnds rest) :
    splitWord (keyword ++ rest) = (keyword, rest) := by
  have hgoesOn : ∀ c ∈ keyword, (!endsClauseWord c) = true := fun c hc => by
    rw [endsClauseWord_of_isAlpha (hword c hc)]
    rfl
  have hstops : ∀ c ∈ rest.head?, (!endsClauseWord c) = false := fun c hc => by
    rw [hrest c hc]
    rfl
  have hcut := Text.takeWhile_append_of_stop hgoesOn hstops
  exact Prod.ext hcut.1 hcut.2

/-- A clause keyword is a word of letters. -/
theorem ne_nil_of_isClauseKeyword (h : isClauseKeyword keyword = true) : keyword ≠ [] := by
  rintro rfl
  exact absurd h (by decide)

/-- So is a connector. -/
theorem ne_nil_of_isConnector (h : isConnector connector = true) : connector ≠ [] := by
  rintro rfl
  exact absurd h (by decide)

/-- The first character of a word is no blank. -/
theorem isBlank_eq_false_of_word (hword : ∀ c ∈ keyword, c.isAlpha = true) (hne : keyword ≠ [])
    (rest : List Char) : ∀ c ∈ (keyword ++ rest).head?, Text.isBlank c = false := by
  obtain ⟨first, tail, rfl⟩ := List.exists_cons_of_ne_nil hne
  intro c hc
  obtain rfl := Option.some.inj hc
  have hends := endsClauseWord_of_isAlpha (hword first List.mem_cons_self)
  exact (Bool.or_eq_false_iff.1 hends).1

/-! ## The parts of a text -/

namespace Opening

/-- The parts of a text that begins with a clause keyword are those of the text behind it. -/
theorem of_keyword (hlead : AllBlank lead) (hkeyword : isClauseKeyword keyword = true)
    (hrest : WordEnds rest) :
    of (lead ++ keyword ++ rest) =
      ⟨lead, keyword, (splitBlanks rest).1, (splitWord (splitBlanks rest).2).1,
        (splitBlanks (splitWord (splitBlanks rest).2).2).1,
        (splitBlanks (splitWord (splitBlanks rest).2).2).2⟩ := by
  have hletters := isAlpha_of_isClauseKeyword hkeyword
  have hne := ne_nil_of_isClauseKeyword hkeyword
  have hblanks := splitBlanks_append_of_word hlead (isBlank_eq_false_of_word hletters hne rest)
  have hword := splitWord_append_of_ends hletters hrest
  simp only [of, List.append_assoc, hblanks, hword]

/-- The parts of a text that begins with a dangling connector. -/
theorem of_dangling (o : Dangling) (hrest : WordEnds rest) :
    of (o.text ++ rest) =
      ⟨o.lead, o.keyword, o.gap, o.connector, (splitBlanks rest).1, (splitBlanks rest).2⟩ := by
  have hletters := isAlpha_of_isConnector o.connector_isConnector
  have hne := ne_nil_of_isConnector o.connector_isConnector
  have hblanks :=
    splitBlanks_append_of_word o.gap_blank (isBlank_eq_false_of_word hletters hne rest)
  have hword := splitWord_append_of_ends hletters hrest
  have hkeyword := of_keyword o.lead_blank o.keyword_isClauseKeyword
    (o.gap_blank.wordEnds_append o.gap_ne_nil (o.connector ++ rest))
  rw [hblanks, hword] at hkeyword
  rw [Dangling.text, List.append_assoc, List.append_assoc]
  exact hkeyword

/-- A word that is cut off ends where it is. -/
theorem wordEnds_splitWord (cs : List Char) : WordEnds (splitWord cs).2 := by
  intro c hc
  have hstop := List.head?_dropWhile_not (!endsClauseWord ·) cs
  rw [show (cs.dropWhile (!endsClauseWord ·)).head? = some c from hc] at hstop
  simpa using hstop

/-- A text with a clause keyword and a connector for its first words begins with both. -/
theorem exists_dangling {text : List Char} (hkeyword : isClauseKeyword (of text).keyword = true)
    (hconnector : SqlTemplate.isConnector (of text).connector = true) :
    ∃ (o : Dangling) (rest : List Char), text = o.text ++ rest ∧ WordEnds rest := by
  have hparts := start_append_remaining text
  -- Without a gap the keyword would be followed by a parenthesis, and so by no second word.
  have hgap : (of text).gap ≠ [] := by
    intro hgap
    have hafter := splitBlanks_append (splitWord (splitBlanks text).2).2
    rw [show (splitBlanks (splitWord (splitBlanks text).2).2).1 = [] from hgap,
      List.nil_append] at hafter
    have hends := wordEnds_splitWord (splitBlanks text).2
    rw [← hafter] at hends
    refine ne_nil_of_isConnector hconnector ?_
    show (splitBlanks (splitWord (splitBlanks text).2).2).2.takeWhile (!endsClauseWord ·) = []
    cases hrest : (splitBlanks (splitWord (splitBlanks text).2).2).2 with
    | nil => rfl
    | cons c rest =>
      rw [hrest] at hends
      rw [List.takeWhile_cons_of_neg]
      rw [hends c rfl]
      decide
  let o : Dangling := ⟨(of text).lead, (of text).keyword, (of text).gap, (of text).connector,
    fun _ => isBlank_of_mem_splitBlanks, hkeyword, hgap, fun _ => isBlank_of_mem_splitBlanks,
    hconnector⟩
  refine ⟨o, (of text).space ++ (of text).remaining, ?_, ?_⟩
  · rw [← List.append_assoc]
    exact hparts.symm
  · have hrest := splitBlanks_append
      (splitWord (splitBlanks (splitWord (splitBlanks text).2).2).2).2
    rw [show (of text).space ++ (of text).remaining = _ from hrest]
    exact wordEnds_splitWord _

end Opening

/-! ## What pruning makes of a text -/

/-- Nothing is left of a text without its leading blanks if it holds nothing else. -/
theorem isEmpty_splitBlanks : (splitBlanks rest).2.isEmpty = true ↔ AllBlank rest := by
  rw [List.isEmpty_iff]
  exact List.dropWhile_eq_nil_iff

/-- A dangling connector is taken out of the text that goes on behind it. -/
theorem pruneChars_dangling (o : Dangling) (hrest : WordEnds rest) :
    pruneChars (o.text ++ rest) =
      if (splitBlanks rest).2.isEmpty then none else some (o.kept ++ Text.trimStart rest) := by
  rw [Opening.pruneChars_eq, Opening.of_dangling o hrest]
  simp only [o.keyword_isClauseKeyword, o.connector_isConnector, if_true, Opening.reduced,
    List.contains_iff_mem]
  rfl

/-- A vacant text is dropped. -/
theorem pruneChars_of_vacant (h : Vacant cs) : pruneChars cs = none := by
  cases h with
  | blank hblank =>
    have hempty := isEmpty_splitBlanks.2 hblank
    simp only [pruneChars, hempty, if_true]
  | keyword hlone =>
    obtain ⟨lead, keyword, tail, rfl, hlead, hkeyword, htail⟩ := hlone
    rw [Opening.pruneChars_eq, Opening.of_keyword hlead hkeyword htail.wordEnds,
      List.isEmpty_iff.1 (isEmpty_splitBlanks.2 htail), if_pos hkeyword]
    -- No second word follows.
    have hsecond : ¬isConnector [] = true := by decide
    exact (if_neg hsecond).trans (if_pos rfl)
  | connector o htail =>
    rw [pruneChars_dangling o htail.wordEnds, if_pos (isEmpty_splitBlanks.2 htail)]

/-- Every text is vacant, or begins with a dangling connector and goes on behind it, or is neither
and stays as it is. -/
theorem pruneChars_cases (cs : List Char) :
    (Vacant cs ∧ pruneChars cs = none) ∨
    (∃ (o : Dangling) (rest : List Char), cs = o.text ++ rest ∧ WordEnds rest ∧ ¬AllBlank rest ∧
      pruneChars cs = some (o.kept ++ Text.trimStart rest)) ∨
    (¬Vacant cs ∧ ¬Dangles cs ∧ pruneChars cs = some cs) := by
  by_cases hvacant : Vacant cs
  · exact .inl ⟨hvacant, pruneChars_of_vacant hvacant⟩
  · by_cases hdangles : Dangles cs
    · obtain ⟨o, rest, rfl, hrest⟩ := hdangles
      have hblank : ¬AllBlank rest := fun hblank => hvacant (.connector o hblank)
      have hprune := pruneChars_dangling o hrest
      rw [if_neg (mt isEmpty_splitBlanks.1 hblank)] at hprune
      exact .inr (.inl ⟨o, rest, rfl, hrest, hblank, hprune⟩)
    · refine .inr (.inr ⟨hvacant, hdangles, ?_⟩)
      rw [Opening.pruneChars_eq]
      split_ifs with hkeyword hconnector hempty hempty hblank
      -- A keyword with a connector behind it dangles, which has been excluded.
      · exact absurd (Opening.exists_dangling hkeyword hconnector) hdangles
      · exact absurd (Opening.exists_dangling hkeyword hconnector) hdangles
      · -- Behind the keyword there is nothing but blanks.
        have hparts := Opening.start_append_remaining cs
        simp only [List.isEmpty_iff, List.append_eq_nil_iff] at hempty
        obtain ⟨⟨hconnector, hspace⟩, hremaining⟩ := hempty
        simp only [Opening.start, hconnector, hspace, hremaining, List.append_nil] at hparts
        have hlone : LoneKeyword cs := ⟨_, _, _, hparts.symm, fun _ => isBlank_of_mem_splitBlanks,
          hkeyword, fun _ => isBlank_of_mem_splitBlanks⟩
        exact absurd (.keyword hlone) hvacant
      · rfl
      · exact absurd (.blank (List.all_eq_true.1 hblank)) hvacant
      · rfl

/-- Vacant texts are dropped, and no others. -/
theorem pruneChars_eq_none_iff : pruneChars cs = none ↔ Vacant cs := by
  refine ⟨fun hnone => ?_, pruneChars_of_vacant⟩
  rcases pruneChars_cases cs with ⟨hvacant, -⟩ | ⟨o, rest, -, -, -, hsome⟩ | ⟨-, -, hsome⟩
  · exact hvacant
  · simp [hsome] at hnone
  · simp [hsome] at hnone

/-- What is left of any other text. -/
theorem pruneChars_eq_some_iff {out : List Char} :
    pruneChars cs = some out ↔
      (∃ (o : Dangling) (rest : List Char), cs = o.text ++ rest ∧ WordEnds rest ∧ ¬AllBlank rest ∧
        out = o.kept ++ Text.trimStart rest) ∨
      (¬Vacant cs ∧ ¬Dangles cs ∧ out = cs) := by
  constructor
  · intro h
    rcases pruneChars_cases cs with ⟨-, hnone⟩ | ⟨o, rest, hcs, hrest, hblank, hsome⟩ |
      ⟨hvacant, hdangles, hsome⟩
    · simp [hnone] at h
    · exact .inl ⟨o, rest, hcs, hrest, hblank, Option.some.inj (h.symm.trans hsome)⟩
    · exact .inr ⟨hvacant, hdangles, Option.some.inj (h.symm.trans hsome)⟩
  · rintro (⟨o, rest, rfl, hrest, hblank, rfl⟩ | ⟨hvacant, hdangles, rfl⟩)
    · rw [pruneChars_dangling o hrest, if_neg (mt isEmpty_splitBlanks.1 hblank)]
    · rcases pruneChars_cases out with ⟨hdropped, -⟩ | ⟨o, rest, hcs, hrest, -, -⟩ | ⟨-, -, hsome⟩
      · exact absurd hdropped hvacant
      · exact absurd ⟨o, rest, hcs, hrest⟩ hdangles
      · exact hsome

/-! ## Pruning once more -/

/-- A start becomes shorter where its connector is taken out. -/
theorem Dangling.length_kept_lt (o : Dangling) : o.kept.length < o.text.length := by
  have hgap := List.length_pos_iff.2 o.gap_ne_nil
  have hconnector := List.length_pos_iff.2 (ne_nil_of_isConnector o.connector_isConnector)
  have hkept : o.gapKept.length ≤ o.gap.length := by
    unfold gapKept
    split_ifs
    · exact Nat.le_refl _
    · exact hgap
  simp only [kept, text, List.length_append]
  omega

/-- Pruning leaves a text as it is that is neither vacant nor begins with a dangling connector. -/
theorem pruneChars_eq_self_iff : pruneChars cs = some cs ↔ ¬Vacant cs ∧ ¬Dangles cs := by
  rcases pruneChars_cases cs with ⟨hvacant, hnone⟩ | ⟨o, rest, hcs, hrest, -, hsome⟩ |
    ⟨hvacant, hdangles, hsome⟩
  · rw [hnone]
    exact iff_of_false (by simp) fun h => h.1 hvacant
  · refine iff_of_false ?_ fun h => h.2 ⟨o, rest, hcs, hrest⟩
    -- The text has become shorter.
    intro hself
    have hlength := congrArg List.length (Option.some.inj (hsome.symm.trans hself))
    have hstart := o.length_kept_lt
    have hend : (Text.trimStart rest).length ≤ rest.length := (List.dropWhile_sublist _).length_le
    rw [hcs, List.length_append, List.length_append] at hlength
    omega
  · exact iff_of_true hsome ⟨hvacant, hdangles⟩

/-- A text begins with at most one dangling connector, and goes on behind it in one way. -/
theorem Dangling.eq_of_append {o o' : Dangling} {rest rest' : List Char}
    (h : o.text ++ rest = o'.text ++ rest') (hrest : WordEnds rest) (hrest' : WordEnds rest') :
    o = o' ∧ rest = rest' := by
  have hparts := Opening.of_dangling o hrest
  rw [h, Opening.of_dangling o' hrest'] at hparts
  have ho : o = o' := by
    obtain ⟨lead, keyword, gap, connector⟩ := o
    obtain ⟨lead', keyword', gap', connector'⟩ := o'
    simp only [Opening.mk.injEq] at hparts
    obtain ⟨rfl, rfl, rfl, rfl, -⟩ := hparts
    rfl
  subst ho
  exact ⟨rfl, List.append_cancel_left h⟩

/-- A text with two connectors behind its keyword begins with a dangling one. -/
theorem DanglesTwice.dangles (h : DanglesTwice cs) : Dangles cs := by
  obtain ⟨o, space, connector, rest, rfl, hne, hspace, -, -⟩ := h
  refine ⟨o, space ++ (connector ++ rest), ?_, hspace.wordEnds_append hne _⟩
  simp only [List.append_assoc]

/-- The text begins with a connector. -/
def StartsConnector (cs : List Char) : Prop :=
  ∃ connector rest : List Char, cs = connector ++ rest ∧ isConnector connector = true ∧
    WordEnds rest

/-- What stands behind the blanks of a text starts with no blank. -/
theorem isBlank_of_mem_head?_trimStart (cs : List Char) :
    ∀ c ∈ (Text.trimStart cs).head?, Text.isBlank c = false := by
  intro c hc
  have hstop := List.head?_dropWhile_not Text.isBlank cs
  rw [show (cs.dropWhile Text.isBlank).head? = some c from hc] at hstop
  simpa using hstop

/-- A connector dangles behind a keyword and a gap if it is what comes next. -/
theorem dangles_gap_iff (hlead : AllBlank lead) (hkeyword : isClauseKeyword keyword = true)
    (hgap : AllBlank gap) (hne : gap ≠ []) :
    Dangles (lead ++ keyword ++ (gap ++ Text.trimStart rest)) ↔
      StartsConnector (Text.trimStart rest) := by
  constructor
  · rintro ⟨o, after, htext, hafter⟩
    -- The opening of a text is unique, so the connector is the word behind the gap.
    have hparts := Opening.of_keyword hlead hkeyword
      (hgap.wordEnds_append hne (Text.trimStart rest))
    rw [htext, Opening.of_dangling o hafter,
      splitBlanks_append_of_word hgap (isBlank_of_mem_head?_trimStart rest)] at hparts
    have hconnector : o.connector = (splitWord (Text.trimStart rest)).1 :=
      congrArg Opening.connector hparts
    refine ⟨o.connector, (splitWord (Text.trimStart rest)).2, ?_, o.connector_isConnector,
      Opening.wordEnds_splitWord _⟩
    rw [hconnector, splitWord_append]
  · rintro ⟨connector, after, hafter, hconnector, hends⟩
    let o : Dangling := ⟨lead, keyword, gap, connector, hlead, hkeyword, hne, hgap, hconnector⟩
    refine ⟨o, after, ?_, hends⟩
    rw [hafter]
    simp only [o, Dangling.text, List.append_assoc]

/-- Two connectors stand behind a keyword if the first one is followed by another. -/
theorem danglesTwice_iff (o : Dangling) (hrest : WordEnds rest) :
    DanglesTwice (o.text ++ rest) ↔ StartsConnector (Text.trimStart rest) := by
  constructor
  · rintro ⟨o', space, connector, after, htext, hne, hspace, hconnector, hends⟩
    rw [List.append_assoc, List.append_assoc] at htext
    -- The first connector is that of the text, so the second one is the next word.
    have hnext := hspace.wordEnds_append hne (connector ++ after)
    obtain ⟨-, rfl⟩ := Dangling.eq_of_append htext hrest hnext
    have hletters := isAlpha_of_isConnector hconnector
    have hblanks := splitBlanks_append_of_word hspace
      (isBlank_eq_false_of_word hletters (ne_nil_of_isConnector hconnector) after)
    exact ⟨connector, after, congrArg Prod.snd hblanks, hconnector, hends⟩
  · rintro ⟨connector, after, hafter, hconnector, hends⟩
    have happend : (splitBlanks rest).1 ++ Text.trimStart rest = rest := splitBlanks_append rest
    rw [hafter] at happend
    refine ⟨o, (splitBlanks rest).1, connector, after, ?_, ?_,
      fun _ => isBlank_of_mem_splitBlanks, hconnector, hends⟩
    · rw [List.append_assoc, List.append_assoc, happend]
    · -- The first connector ends before a blank or a parenthesis, not before a letter.
      intro hspace
      rw [hspace, List.nil_append] at happend
      obtain ⟨first, tail, rfl⟩ := List.exists_cons_of_ne_nil (ne_nil_of_isConnector hconnector)
      have hletter := isAlpha_of_isConnector hconnector first List.mem_cons_self
      have hfirst := hrest first (by rw [← happend]; rfl)
      rw [endsClauseWord_of_isAlpha hletter] at hfirst
      exact Bool.false_ne_true hfirst

/-- What follows the first keyword of a text is not blank if something is left of the text. -/
theorem not_loneKeyword (hlead : AllBlank lead) (hkeyword : isClauseKeyword keyword = true)
    (hrest : WordEnds rest) (hblank : ¬AllBlank rest) : ¬LoneKeyword (lead ++ keyword ++ rest) := by
  rintro ⟨lead', keyword', tail, htext, hlead', hkeyword', htail⟩
  have hparts := Opening.of_keyword hlead hkeyword hrest
  rw [htext, Opening.of_keyword hlead' hkeyword' htail.wordEnds] at hparts
  obtain ⟨rfl, rfl, -⟩ := Opening.mk.inj hparts
  exact hblank (List.append_cancel_left htext ▸ htail)

/-- What is left of a text is neither blank nor a lone keyword. -/
theorem not_lone_of_pruneChars {out : List Char} (h : pruneChars cs = some out) :
    ¬AllBlank out ∧ ¬LoneKeyword out := by
  rcases pruneChars_cases cs with ⟨-, hnone⟩ | ⟨o, rest, rfl, hrest, hblank, hsome⟩ |
    ⟨hvacant, -, hsome⟩
  · simp [hnone] at h
  · obtain rfl := Option.some.inj (hsome.symm.trans h)
    -- What is kept behind the connector is visible, so no keyword is left alone.
    have hremaining : ¬AllBlank (Text.trimStart rest) := by
      intro hall
      refine hblank fun c hc => ?_
      rw [← splitBlanks_append rest] at hc
      exact (List.mem_append.1 hc).elim isBlank_of_mem_splitBlanks (hall c)
    have hnot : ¬AllBlank (o.gapKept ++ Text.trimStart rest) :=
      fun hall => hremaining fun c hc => hall c (List.mem_append_right _ hc)
    have hends := o.gapKept_blank.wordEnds_append o.gapKept_ne_nil (Text.trimStart rest)
    rw [Dangling.kept, List.append_assoc]
    exact ⟨fun hall => hnot fun c hc => hall c (List.mem_append_right _ hc),
      not_loneKeyword o.lead_blank o.keyword_isClauseKeyword hends hnot⟩
  · obtain rfl := Option.some.inj (hsome.symm.trans h)
    exact ⟨fun hall => hvacant (.blank hall), fun hlone => hvacant (.keyword hlone)⟩

/-- What is left of a text begins with a dangling connector if two of them stood behind its
keyword. -/
theorem dangles_pruneChars_iff {out : List Char} (h : pruneChars cs = some out) :
    Dangles out ↔ DanglesTwice cs := by
  rcases pruneChars_cases cs with ⟨-, hnone⟩ | ⟨o, rest, rfl, hrest, -, hsome⟩ |
    ⟨-, hdangles, hsome⟩
  · simp [hnone] at h
  · obtain rfl := Option.some.inj (hsome.symm.trans h)
    rw [danglesTwice_iff o hrest, Dangling.kept, List.append_assoc]
    exact dangles_gap_iff o.lead_blank o.keyword_isClauseKeyword o.gapKept_blank o.gapKept_ne_nil
  · obtain rfl := Option.some.inj (hsome.symm.trans h)
    exact iff_of_false hdangles (mt DanglesTwice.dangles hdangles)

end SqlTemplate
