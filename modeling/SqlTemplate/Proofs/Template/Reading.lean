import SqlTemplate.Proofs.Template.Lossless

/-!
# Where a piece ends

To find where a piece ends, the reading looks at what comes behind it: at two characters, for the
start of a comment or the end of a word, and for a quote anywhere, since a quote in a condition
starts a string only if another one follows. So a piece is the same before all texts that look alike
in these two respects (`Piece.first_alike`).
-/

namespace SqlTemplate

open Template (quotedTail commentBody? listTail?)

/-! ## Texts that look alike -/

/-- Two texts in front of which every piece ends in the same way. -/
structure LookAlike (cs ds : List Char) : Prop where
  /-- The first two characters are the same. -/
  ahead : cs.take 2 = ds.take 2
  /-- A quote is found in both or in none. -/
  quote : '\'' ∈ cs ↔ '\'' ∈ ds

namespace LookAlike

variable {cs ds : List Char}

/-- Texts that look alike do so behind a common text. -/
theorem append (h : LookAlike cs ds) (before : List Char) :
    LookAlike (before ++ cs) (before ++ ds) := by
  refine ⟨?_, by simp only [List.mem_append, h.quote]⟩
  rw [List.take_append, List.take_append]
  congr 1
  have hfewer := congrArg (List.take (2 - before.length)) h.ahead
  rwa [List.take_take, List.take_take, Nat.min_eq_left (Nat.sub_le _ _)] at hfewer

/-- They have the same first character. -/
theorem head? (h : LookAlike cs ds) : cs.head? = ds.head? := by
  have hhead := congrArg List.head? h.ahead
  rwa [List.head?_take, List.head?_take] at hhead

/-- None of them is empty unless both are. -/
theorem nil_iff (h : LookAlike cs ds) : cs = [] ↔ ds = [] := by
  rw [← List.head?_eq_none_iff, h.head?, List.head?_eq_none_iff]

end LookAlike

namespace Template

variable {cs rest rest' : List Char}

/-- Where a string ends depends on the next character only. -/
theorem quotedTail_append_of_head? (hhead : (quotedTail cs).2.head? = rest'.head?) :
    quotedTail ((quotedTail cs).1 ++ rest') = ((quotedTail cs).1, rest') := by
  fun_induction quotedTail cs with
  | case1 =>
    obtain rfl := List.head?_eq_none_iff.1 hhead.symm
    rfl
  | case2 cs tail rest heq ih =>
    rw [heq] at ih
    simp only [List.cons_append, quotedTail, ih hhead]
  | case3 cs hquote =>
    match rest' with
    | [] => rfl
    | c :: cs' =>
      -- The string has ended, so no quote follows, here or there.
      have hc : c ≠ '\'' := by
        rintro rfl
        obtain ⟨cs'', hcs⟩ := List.head?_eq_some_iff.1 hhead
        exact hquote cs'' hcs
      show quotedTail ('\'' :: c :: cs') = _
      rw [quotedTail]
      simp [hc]
  | case4 c cs hdoubled hquote tail rest heq ih =>
    rw [heq] at ih
    have hc : c ≠ '\'' := fun h => hquote h
    show quotedTail (c :: (tail ++ rest')) = _
    rw [quotedTail, ih hhead]
    · simp [hc]
    · exact hc

/-- The end of a comment depends on what comes behind it only in whether there is a quote. -/
theorem commentBody?_append {withStrings : Bool} {nested : Nat} {body : List Char}
    (h : commentBody? withStrings nested cs = some (body, rest))
    (hquote : '\'' ∈ rest ↔ '\'' ∈ rest') :
    commentBody? withStrings nested (body ++ '*' :: '/' :: rest') = some (body, rest') := by
  fun_induction commentBody? withStrings nested cs generalizing body with
  | case1 => simp at h
  | case2 nested cs ih =>
    obtain ⟨⟨inner, _⟩, h', heq⟩ := Option.map_eq_some_iff.1 h
    obtain ⟨rfl, rfl⟩ := Prod.mk.inj heq
    have hinner := ih h'
    simp only [List.cons_append, commentBody?, hinner, Option.map_some]
  | case3 cs =>
    obtain ⟨rfl, rfl⟩ := Prod.mk.inj (Option.some.inj h)
    simp only [List.nil_append, commentBody?]
  | case4 cs nested ih =>
    obtain ⟨⟨inner, _⟩, h', heq⟩ := Option.map_eq_some_iff.1 h
    obtain ⟨rfl, rfl⟩ := Prod.mk.inj heq
    have hinner := ih h'
    simp only [List.cons_append, commentBody?, hinner, Option.map_some]
  | case5 nested c cs hopen hclose hstring ih =>
    obtain ⟨⟨inner, _⟩, h', heq⟩ := Option.map_eq_some_iff.1 h
    obtain ⟨rfl, rfl⟩ := Prod.mk.inj heq
    have htail := eq_append_of_commentBody? h'
    have hinner := ih h'
    -- The string ends in the comment, so it is read alike there.
    have hquoted : quotedTail ((quotedTail cs).1 ++ (inner ++ '*' :: '/' :: rest')) =
        ((quotedTail cs).1, inner ++ '*' :: '/' :: rest') := by
      refine quotedTail_append_of_head? ?_
      rw [htail]
      cases inner <;> rfl
    have hstring' : (withStrings && c == '\'' &&
        ((quotedTail cs).1 ++ (inner ++ '*' :: '/' :: rest')).contains '\'') = true := by
      rw [← quotedTail_append cs, htail] at hstring
      simpa [hquote] using hstring
    have hc : c = '\'' := by
      simp only [Bool.and_eq_true, beq_iff_eq] at hstring
      exact hstring.1.2
    subst hc
    rw [List.append_assoc, List.cons_append, commentBody?, if_pos hstring', hquoted, hinner]
    · simp
    · simp
    · simp
  | case6 nested c cs hopen hclose hplain ih =>
    obtain ⟨⟨inner, _⟩, h', heq⟩ := Option.map_eq_some_iff.1 h
    obtain ⟨rfl, rfl⟩ := Prod.mk.inj heq
    have htail := eq_append_of_commentBody? h'
    have hinner := ih h'
    have hplain' : ¬(withStrings && c == '\'' &&
        (inner ++ '*' :: '/' :: rest').contains '\'') = true := by
      rw [htail] at hplain
      simpa [hquote] using hplain
    -- The comment marks are told by the next character, which is the same.
    have hhead : (inner ++ '*' :: '/' :: rest').head? = cs.head? := by
      rw [htail]
      cases inner <;> rfl
    rw [List.cons_append, commentBody?, if_neg hplain', hinner]
    · rfl
    · intro more hc hmore
      rw [hmore] at hhead
      obtain ⟨more', hcs⟩ := List.head?_eq_some_iff.1 hhead.symm
      exact hopen more' hc hcs
    · intro more hc hmore
      rw [hmore] at hhead
      obtain ⟨more', hcs⟩ := List.head?_eq_some_iff.1 hhead.symm
      exact hclose more' hc hcs

/-- The end of a list is its last parenthesis, whatever comes behind it. -/
theorem listTail?_append {nested : Nat} {tail : List Char}
    (h : listTail? nested cs = some (tail, rest)) :
    listTail? nested (tail ++ rest') = some (tail, rest') ∧ tail ≠ [] := by
  fun_induction listTail? nested cs generalizing tail with
  | case1 => simp at h
  | case2 nested cs ih =>
    obtain ⟨⟨inner, _⟩, h', heq⟩ := Option.map_eq_some_iff.1 h
    obtain ⟨rfl, rfl⟩ := Prod.mk.inj heq
    obtain ⟨hinner, hne⟩ := ih h'
    -- The string ends before the parenthesis, so it is read alike there.
    have hquoted : quotedTail ((quotedTail cs).1 ++ (inner ++ rest')) =
        ((quotedTail cs).1, inner ++ rest') := by
      refine quotedTail_append_of_head? ?_
      rw [eq_append_of_listTail? h', List.head?_append_of_ne_nil _ hne,
        List.head?_append_of_ne_nil _ hne]
    rw [List.append_assoc, List.cons_append, listTail?, hquoted, hinner]
    simp
  | case3 => simp at h
  | case4 nested cs ih =>
    obtain ⟨⟨inner, _⟩, h', heq⟩ := Option.map_eq_some_iff.1 h
    obtain ⟨rfl, rfl⟩ := Prod.mk.inj heq
    obtain ⟨hinner, -⟩ := ih h'
    rw [List.cons_append, listTail?, hinner]
    simp
  | case5 =>
    obtain ⟨rfl, rfl⟩ := Prod.mk.inj (Option.some.inj h)
    simp [listTail?]
  | case6 cs nested ih =>
    obtain ⟨⟨inner, _⟩, h', heq⟩ := Option.map_eq_some_iff.1 h
    obtain ⟨rfl, rfl⟩ := Prod.mk.inj heq
    obtain ⟨hinner, -⟩ := ih h'
    rw [List.cons_append, listTail?, hinner]
    simp
  | case7 nested c cs hquote hcomment hopen hclose ih =>
    obtain ⟨⟨inner, _⟩, h', heq⟩ := Option.map_eq_some_iff.1 h
    obtain ⟨rfl, rfl⟩ := Prod.mk.inj heq
    obtain ⟨hinner, hne⟩ := ih h'
    rw [List.cons_append, listTail?, hinner]
    · simp
    · exact hquote
    · intro more hc hmore
      obtain rfl := eq_append_of_listTail? h'
      cases inner with
      | nil => exact hne rfl
      | cons d inner =>
        obtain ⟨rfl, -⟩ := List.cons.inj hmore
        exact hcomment _ hc rfl
    · exact hopen
    · exact hclose

end Template

namespace TestValue

variable {cs rest rest' : List Char}

/-- A text that begins with no comment ends a word by its first character. -/
theorem endsWord_cons {c : Char} (hcomment : ∀ more, c = '/' → cs ≠ '*' :: more)
    (hline : ∀ more, c = '-' → cs ≠ '-' :: more) :
    endsWord (c :: cs) = (Text.isAsciiBlank c || c == ',' || c == ')' || c == ';') := by
  rw [endsWord]
  · exact hcomment
  · exact hline

/-- Whether a word ends is seen from two characters. -/
theorem endsWord_take (cs : List Char) : endsWord (cs.take 2) = endsWord cs := by
  match cs with
  | [] | [_] => rfl
  | c :: d :: cs =>
    by_cases hcomment : c = '/' ∧ d = '*'
    · obtain ⟨rfl, rfl⟩ := hcomment
      rfl
    by_cases hline : c = '-' ∧ d = '-'
    · obtain ⟨rfl, rfl⟩ := hline
      rfl
    · show endsWord [c, d] = _
      rw [endsWord_cons, endsWord_cons] <;> simp_all

/-- Where a word ends, there is no word. -/
theorem word_of_endsWord (h : endsWord cs) : word cs = ([], cs) := by
  cases cs with
  | nil => rfl
  | cons c cs => rw [word, if_pos h]

/-- Where a word ends is seen from the next two characters. -/
theorem word_append_of_alike (h : LookAlike (word cs).2 rest') :
    word ((word cs).1 ++ rest') = ((word cs).1, rest') := by
  induction cs with
  | nil =>
    obtain rfl := h.nil_iff.1 rfl
    rfl
  | cons c cs ih =>
    rw [word] at h ⊢
    split_ifs at h ⊢ with hends
    · refine word_of_endsWord ?_
      show endsWord rest' = true
      rwa [← endsWord_take, ← h.ahead, endsWord_take]
    · dsimp only at h ⊢
      -- The next characters decide where the word ends, and they are the same.
      have hsame := (h.append (c :: (word cs).1)).ahead
      rw [List.cons_append, word_append] at hsame
      rw [List.cons_append, word, if_neg, ih h]
      rwa [← List.cons_append, ← endsWord_take, ← hsame, endsWord_take]

/-- Where a test value ends depends on what comes behind it only in how that looks. -/
theorem read?_append {test : TestValue} (h : read? cs = some (test, rest))
    (halike : LookAlike rest rest') : read? (test.text.toList ++ rest') = some (test, rest') := by
  unfold read? at h
  split at h
  · next cs =>
    obtain ⟨rfl, rfl⟩ := Prod.mk.inj (Option.some.inj h)
    rw [String.toList_ofList, List.cons_append, read?,
      Template.quotedTail_append_of_head? halike.head?]
  · next cs =>
    obtain ⟨⟨tail, _⟩, h', heq⟩ := Option.map_eq_some_iff.1 h
    obtain ⟨rfl, rfl⟩ := Prod.mk.inj heq
    rw [String.toList_ofList, List.cons_append, read?, (Template.listTail?_append h').1]
    rfl
  · next hquote hlist =>
    obtain ⟨rfl, rfl⟩ := Prod.mk.inj (Option.some.inj h)
    have hhead := (halike.append (word cs).1).head?
    rw [word_append] at hhead
    -- A word starts with neither a quote nor a parenthesis, in both texts.
    rw [String.toList_ofList, read?, word_append_of_alike halike]
    · intro more hmore
      rw [hmore] at hhead
      obtain ⟨more', hcs⟩ := List.head?_eq_some_iff.1 hhead
      exact hquote more' hcs
    · intro more hmore
      rw [hmore] at hhead
      obtain ⟨more', hcs⟩ := List.head?_eq_some_iff.1 hhead
      exact hlist more' hcs

end TestValue

/-! ## The first piece -/

namespace Directive

/-- A word without a star begins a comment if it begins the body. -/
theorem isPrefixOf_comment {keyword : List Char} (h : '*' ∉ keyword) (body rest : List Char) :
    keyword.isPrefixOf (body ++ '*' :: rest) = keyword.isPrefixOf body := by
  induction keyword generalizing body with
  | nil => rfl
  | cons c keyword ih =>
    simp only [List.mem_cons, not_or] at h
    cases body with
    | nil =>
      have hc : (c == '*') = false := beq_false_of_ne (Ne.symm h.1)
      simp only [List.nil_append, List.isPrefixOf, hc, Bool.false_and]
    | cons d body => simp only [List.cons_append, List.isPrefixOf, ih h.2 body]

/-- Whether a body holds strings is seen from the body alone. -/
theorem holdsStrings_comment (body rest : List Char) :
    holdsStrings (body ++ '*' :: rest) = holdsStrings body := by
  rw [holdsStrings, isPrefixOf_comment (by decide), isPrefixOf_comment (by decide), holdsStrings]

/-- A comment that is no directive is read without strings. -/
theorem holdsStrings_of_classify? {body : List Char} (h : classify? body = none) :
    holdsStrings body = false := by
  have hpayload : withPayload? body = none := by
    simp only [classify?, Option.orElse_eq_orElse, Option.orElse_eq_or, Option.or_eq_none_iff,
      Option.map_eq_none_iff] at h
    exact h.2.1
  -- Each keyword of a body with strings is followed by a blank, and so by a payload.
  have hkeyword : ∀ {keyword : List Char}, payload? keyword body = none →
      (keyword ++ [' ']).isPrefixOf body = false := by
    intro keyword hnone
    unfold payload? at hnone
    split_ifs at hnone with hprefix
    exact eq_false_of_ne_true hprefix
  unfold withPayload? at hpayload
  split_ifs at hpayload
  simp only [Option.orElse_eq_orElse, Option.orElse_eq_or, Option.or_eq_none_iff,
    Option.map_eq_none_iff] at hpayload
  exact Bool.or_eq_false_iff.2 ⟨hkeyword hpayload.1, hkeyword hpayload.2.2⟩

end Directive

namespace Piece

open Directive

variable {cs source rest rest' : List Char} {directive : Option TokenKind}

/-- A comment is read in the same way in front of all texts that agree on whether there is a
quote. -/
theorem first_comment {body : List Char}
    (h : commentBody? (holdsStrings (body ++ '*' :: '/' :: rest)) 0 (body ++ '*' :: '/' :: rest) =
      some (body, rest)) (hquote : '\'' ∈ rest ↔ '\'' ∈ rest') :
    first (comment body ++ rest') = ofComment body rest' := by
  have hcomment : comment body ++ rest' = '/' :: '*' :: (body ++ '*' :: '/' :: rest') := by
    simp [comment]
  have hbody := Template.commentBody?_append h hquote
  rw [holdsStrings_comment, ← holdsStrings_comment body ('/' :: rest')] at hbody
  rw [hcomment, first, hbody]

/-- A line ends where it does in front of all texts that begin with the end of a line, or of the
text. -/
theorem line_append (hhead : (cs.dropWhile (· != '\n')).head? = rest'.head?) :
    (cs.takeWhile (· != '\n') ++ rest').takeWhile (· != '\n') = cs.takeWhile (· != '\n') ∧
      (cs.takeWhile (· != '\n') ++ rest').dropWhile (· != '\n') = rest' := by
  have hend : ∀ c ∈ rest'.head?, c = '\n' := hhead ▸ Token.eq_of_mem_head?_dropWhile cs
  have hline : ∀ c ∈ cs.takeWhile (· != '\n'), (c != '\n') = true :=
    fun c hc => List.mem_takeWhile_imp (p := (· != '\n')) hc
  rw [List.takeWhile_append_of_pos hline, List.dropWhile_append_of_pos hline]
  cases rest' with
  | nil => simp
  | cons c rest' =>
    obtain rfl := hend c rfl
    simp

/-- A stretch is the same in front of all texts that look alike. -/
theorem first_alike (h : first cs = stretch directive source rest) (halike : LookAlike rest rest') :
    first (source ++ rest') = stretch directive source rest' := by
  cases begins_of_first h with
  | string cs => rw [List.cons_append, first, Template.quotedTail_append_of_head? halike.head?]
  | comment hbody hkind | directive hbody hkind =>
    obtain rfl := Template.eq_append_of_commentBody? hbody
    rw [first_comment hbody halike.quote, ofComment, hkind]
  | @reference cs body behind _ path embedded test hbody hkind htest =>
    obtain rfl := Template.eq_append_of_commentBody? hbody
    -- The test value and what follows it look like what followed the comment.
    have hbehind := TestValue.eq_append_of_read? htest
    have hquote := (halike.append test.text.toList).quote
    rw [← hbehind] at hquote
    rw [List.append_assoc, first_comment hbody hquote, ofComment, hkind]
    dsimp only
    rw [TestValue.read?_append htest halike]
  | separator hline =>
    obtain ⟨hsame, hbehind⟩ := line_append halike.head?
    rw [List.cons_append, List.cons_append, first, hsame, hbehind, if_pos hline]
  | line hline =>
    obtain ⟨hsame, hbehind⟩ := line_append halike.head?
    rw [List.cons_append, List.cons_append, first, hsame, hbehind, if_neg hline]
  | char hquote hcomment hline =>
    have hhead := halike.head?
    rw [List.singleton_append, first]
    · exact hquote
    · intro more hc hmore
      rw [hmore] at hhead
      obtain ⟨more', hcs⟩ := List.head?_eq_some_iff.1 hhead
      exact hcomment more' hc hcs
    · intro more hc hmore
      rw [hmore] at hhead
      obtain ⟨more', hcs⟩ := List.head?_eq_some_iff.1 hhead
      exact hline more' hc hcs

/-- A directive of its own is no variable. -/
theorem ne_variableKind {body : List Char} {kind : TokenKind}
    (h : classify? body = some (.plain kind)) (embedded : Bool) (expression : String)
    (test : TestValue) : kind ≠ variableKind embedded expression test := by
  rcases keyword?_or_withPayload? h with hk | hk
  · unfold keyword? at hk
    split_ifs at hk <;> cases hk <;> cases embedded <;> nofun
  · unfold withPayload? at hk
    split_ifs at hk
    · cases hk; cases embedded <;> nofun
    · cases hk; cases embedded <;> nofun
    · cases hk; cases embedded <;> nofun
    · simp only [Option.orElse_eq_orElse, Option.orElse_eq_or, Option.or_eq_some_iff,
        Option.map_eq_some_iff] at hk
      rcases hk with ⟨_, -, rfl⟩ | ⟨-, ⟨_, -, rfl⟩ | ⟨-, _, -, rfl⟩⟩ <;> cases embedded <;> nofun

/-- The kind of a variable tells how it is written, its path and its test value. -/
theorem variableKind_inj {embedded embedded' : Bool} {expression expression' : String}
    {test test' : TestValue}
    (h : variableKind embedded expression test = variableKind embedded' expression' test') :
    embedded = embedded' ∧ expression = expression' ∧ test = test' := by
  cases embedded <;> cases embedded' <;> simp_all [variableKind]

/-- A text that begins with a variable begins with its comment and its test value. -/
theorem first_eq_variable {embedded : Bool} {expression : String} {test : TestValue}
    (h : first cs = stretch (some (variableKind embedded expression test)) source rest) :
    ∃ body behind, body = (if embedded then '$' :: expression.toList else expression.toList) ∧
      cs = comment body ++ behind ∧ TestValue.read? behind = some (test, rest) ∧
      ∀ behind', ('\'' ∈ behind ↔ '\'' ∈ behind') → ∀ test' rest',
        TestValue.read? behind' = some (test', rest') →
        first (comment body ++ behind') = stretch (some (variableKind embedded expression test'))
          (comment body ++ test'.text.toList) rest' := by
  generalize hdirective : some (variableKind embedded expression test) = directive at h
  cases begins_of_first h with
  | directive hbody hkind =>
    exact absurd (Option.some.inj hdirective).symm (ne_variableKind hkind _ _ _)
  | separator => cases embedded <;> simp [variableKind] at hdirective
  | @reference cs body behind _ path embedded' test' hbody hkind htest =>
    -- The piece is this reference, so only its test value remains to be read.
    obtain ⟨rfl, rfl, rfl⟩ := variableKind_inj (Option.some.inj hdirective)
    obtain ⟨-, hpath⟩ := eq_of_classify?_reference hkind
    refine ⟨body, behind, ?_, Token.eq_comment_append hbody, htest, ?_⟩
    · rwa [String.toList_ofList]
    · intro behind' hquote test' rest' htest'
      obtain rfl := Template.eq_append_of_commentBody? hbody
      rw [first_comment hbody hquote, ofComment, hkind]
      dsimp only
      rw [htest']
  | string | comment | line | char => simp at hdirective

end Piece

end SqlTemplate
