import Mathlib.Data.List.TakeWhile
import Mathlib.Tactic.SplitIfs
import Mathlib.Tactic.Tauto
import SqlTemplate.Proofs.Outcome
import SqlTemplate.Template.Block

/-!
# The pieces of a template

What stretch of a text each kind of token stands for is said by `TokenKind.Spells`, which knows of
no offset and of no search: plain SQL stands for itself, a variable for its comment and the test
value behind it, a keyword for a comment that starts with it.

`Piece.first` is the piece that a text begins with, and `Token.scan_eq` says that reading a text is
taking its first piece and reading on. How a piece is taken off is said once, by `Piece.Begins`.
`Token.Scans` is what reading a text comes to, piece by piece, faults included; `scans_scan` is that
every text is read in this way. All that is known about the tokens of a text follows from the pieces
by induction.
-/

namespace SqlTemplate

namespace Text

/-- A blank in front does not count for trimming. -/
theorem trim_cons_of_isBlank {c : Char} (hc : isBlank c) (cs : List Char) :
    trim (c :: cs) = trim cs := by
  rw [trim, trim, trimStart, List.dropWhile_cons_of_pos hc, trimStart]

end Text

/-- A comment with its body. -/
def comment (body : List Char) : List Char :=
  '/' :: '*' :: body ++ ['*', '/']

namespace TokenKind

/-- The token is plain SQL. -/
def isSql : TokenKind → Bool
  | sql _ => true
  | _ => false

/-- The token is the line that separates the parts of a conditional block. -/
def isOtherwise : TokenKind → Bool
  | otherwise _ => true
  | _ => false

/-- A comment that starts with a keyword, and whose body holds behind it the payload with blanks at
either end; a blank separates the two. -/
def SpellsPayload (keyword payload : String) (source : List Char) : Prop :=
  ∃ body, source = comment (keyword.toList ++ body) ∧ (∀ c ∈ body.head?, c = ' ') ∧
    payload.toList = Text.trim body

/-- The stretch of a text that a token of this kind stands for. -/
def Spells : TokenKind → List Char → Prop
  | sql text, source => source = text.toList
  | bind expression test, source =>
    Directive.isVariable expression.toList ∧
      source = comment expression.toList ++ test.text.toList
  | embedded expression test, source =>
    Directive.isVariable expression.toList ∧
      source = comment ('$' :: expression.toList) ++ test.text.toList
  | branch condition, source => SpellsPayload "IF" condition source
  | loop path, source => SpellsPayload "FOR" path source
  | connector argument, source => SpellsPayload "NEXT" argument source
  | otherwise text, source =>
    source = text.toList ∧
      ∃ line, source = '-' :: '-' :: line ∧ '\n' ∉ line ∧ Token.isOtherwise line
  | scope, source => source = comment "BEGIN".toList
  | close, source => source = comment "END".toList
  | first, source => source = comment "FIRST".toList
  | last, source => source = comment "LAST".toList

variable {kind : TokenKind} {source : List Char}

/-- A directive is a comment. -/
theorem Spells.exists_eq_cons (h : kind.Spells source) (hsql : kind.isSql = false) :
    ∃ c rest, source = c :: rest ∧ c ≠ '\n' := by
  cases kind with
  | sql => exact absurd hsql (Bool.false_ne_true ∘ Eq.symm)
  | bind | embedded =>
    obtain ⟨-, rfl⟩ := h
    exact ⟨'/', _, rfl, by decide⟩
  | branch | loop | connector =>
    obtain ⟨body, rfl, -⟩ := h
    exact ⟨'/', _, rfl, by decide⟩
  | otherwise =>
    obtain ⟨-, line, rfl, -⟩ := h
    exact ⟨'-', _, rfl, by decide⟩
  | scope | close | first | last =>
    obtain rfl := h
    exact ⟨'/', _, rfl, by decide⟩

end TokenKind

/-! ## What a comment spells -/

namespace Directive

variable {body : List Char} {kind : TokenKind}

/-- A token of its own: a directive other than the line that separates two parts. -/
def IsPlain (kind : TokenKind) : Prop :=
  kind.isSql = false ∧ kind.isOtherwise = false

/-- A keyword without a payload is all of its comment. -/
theorem spells_keyword? (h : keyword? body = some kind) :
    kind.Spells (comment body) ∧ IsPlain kind := by
  unfold keyword? at h
  split_ifs at h with hbegin hend hfirst hlast
  · obtain rfl := Option.some.inj h
    exact ⟨congrArg comment hbegin, rfl, rfl⟩
  · obtain rfl := Option.some.inj h
    exact ⟨congrArg comment hend, rfl, rfl⟩
  · obtain rfl := Option.some.inj h
    exact ⟨congrArg comment hfirst, rfl, rfl⟩
  · obtain rfl := Option.some.inj h
    exact ⟨congrArg comment hlast, rfl, rfl⟩

/-- A payload is what follows the keyword, without the blanks around it. -/
theorem spells_payload? {keyword text : String} (h : payload? keyword.toList body = some text) :
    TokenKind.SpellsPayload keyword text (comment body) := by
  unfold payload? at h
  split_ifs at h with hkeyword
  obtain ⟨rest, rfl⟩ := List.isPrefixOf_iff_prefix.1 hkeyword
  obtain rfl := Option.some.inj h
  refine ⟨' ' :: rest, by simp, by simp, ?_⟩
  rw [Text.trim_cons_of_isBlank (by decide)]
  simp

/-- A keyword that lacks its payload has an empty one. -/
theorem spells_empty (keyword : String) :
    TokenKind.SpellsPayload keyword "" (comment keyword.toList) :=
  ⟨[], by simp, by simp, rfl⟩

/-- A keyword with a payload starts its comment, and the payload follows. -/
theorem spells_withPayload? (h : withPayload? body = some kind) :
    kind.Spells (comment body) ∧ IsPlain kind := by
  unfold withPayload? at h
  split_ifs at h with hif hfor hnext
  · obtain rfl := Option.some.inj h
    exact ⟨hif ▸ spells_empty "IF", rfl, rfl⟩
  · obtain rfl := Option.some.inj h
    exact ⟨hfor ▸ spells_empty "FOR", rfl, rfl⟩
  · obtain rfl := Option.some.inj h
    exact ⟨hnext ▸ spells_empty "NEXT", rfl, rfl⟩
  · simp only [Option.orElse_eq_orElse, Option.orElse_eq_or, Option.or_eq_some_iff,
      Option.map_eq_some_iff] at h
    -- Behind each keyword stands its payload.
    rcases h with ⟨text, htext, rfl⟩ | ⟨-, ⟨text, htext, rfl⟩ | ⟨-, text, htext, rfl⟩⟩
    · exact ⟨spells_payload? htext, rfl, rfl⟩
    · exact ⟨spells_payload? htext, rfl, rfl⟩
    · exact ⟨spells_payload? htext, rfl, rfl⟩

/-- A variable is no token of its own. -/
theorem reference?_ne_plain {body : List Char} {kind : TokenKind} :
    reference? body ≠ some (.plain kind) := by
  unfold reference?
  split
  · split_ifs <;> simp
  · split_ifs <;> simp

/-- A token of its own is a keyword, with a payload or without one. -/
theorem keyword?_or_withPayload? (h : classify? body = some (.plain kind)) :
    keyword? body = some kind ∨ withPayload? body = some kind := by
  simp only [classify?, Option.orElse_eq_orElse, Option.orElse_eq_or, Option.or_eq_some_iff,
    Option.map_eq_some_iff, plain.injEq] at h
  rcases h with ⟨k, hk, rfl⟩ | ⟨-, ⟨k, hk, rfl⟩ | ⟨-, hreference⟩⟩
  · exact .inl hk
  · exact .inr hk
  · exact absurd hreference reference?_ne_plain

/-- A comment that spells a token of its own is the piece of this token. -/
theorem spells_of_classify?_plain (h : classify? body = some (.plain kind)) :
    kind.Spells (comment body) ∧ IsPlain kind := by
  rcases keyword?_or_withPayload? h with hk | hk
  · exact spells_keyword? hk
  · exact spells_withPayload? hk

/-- The characters of a variable. -/
theorem forall_of_isVariable {cs : List Char} (h : isVariable cs = true) :
    ∀ c ∈ cs, c.isAlphanum = true ∨ c = '_' ∨ c = '.' ∨ c = '#' := by
  cases cs with
  | nil => exact fun _ hc => absurd hc List.not_mem_nil
  | cons first rest =>
    simp only [isVariable, Bool.and_eq_true, Bool.or_eq_true, beq_iff_eq, List.all_eq_true] at h
    refine List.forall_mem_cons.2 ⟨?_, fun c hc => by simpa only [or_assoc] using h.2 c hc⟩
    have hfirst := h.1
    simp only [Char.isAlphanum, Bool.or_eq_true]
    tauto

/-- A variable is all of its comment, with a `$` before it if it is embedded. -/
theorem eq_of_classify?_reference {embedded : Bool} {path : List Char}
    (h : classify? body = some (.reference embedded path)) :
    isVariable path ∧ body = if embedded then '$' :: path else path := by
  simp only [classify?, Option.orElse_eq_orElse, Option.orElse_eq_or, Option.or_eq_some_iff,
    Option.map_eq_some_iff] at h
  rcases h with ⟨_, -, hne⟩ | ⟨-, ⟨_, -, hne⟩ | ⟨-, hreference⟩⟩
  · simp at hne
  · simp at hne
  · unfold reference? at hreference
    split at hreference
    · split_ifs at hreference with hpath
      obtain ⟨rfl, rfl⟩ := reference.inj (Option.some.inj hreference)
      exact ⟨hpath, rfl⟩
    · split_ifs at hreference with hpath
      obtain ⟨rfl, rfl⟩ := reference.inj (Option.some.inj hreference)
      exact ⟨hpath, rfl⟩

end Directive

/-- Only a list can lack its end. -/
theorem TestValue.exists_eq_cons_of_read? {cs : List Char} (h : read? cs = none) :
    ∃ rest, cs = '(' :: rest := by
  unfold read? at h
  split at h
  · simp at h
  · next rest => exact ⟨rest, rfl⟩
  · simp at h

/-! ## The first piece -/

namespace Token

open Template

/-- Behind a line comment the line ends. -/
theorem eq_of_mem_head?_dropWhile (cs : List Char) :
    ∀ c ∈ (cs.dropWhile (· != '\n')).head?, c = '\n' := by
  intro c hc
  have h := List.head?_dropWhile_not (· != '\n') cs
  rw [Option.mem_def.1 hc] at h
  simpa using h

/-- A comment without a directive, or one of its own, is followed by what is left of the text. -/
theorem eq_comment_append {cs body rest : List Char} {withStrings : Bool}
    (h : commentBody? withStrings 0 cs = some (body, rest)) :
    '/' :: '*' :: cs = comment body ++ rest := by
  rw [eq_append_of_commentBody? h]
  simp [comment]

end Token

open Template (quotedTail commentBody?)

/-- What a text begins with. -/
inductive Piece where
  /-- Nothing is left. -/
  | nothing
  /-- A stretch of the text, which is a directive or else plain SQL, and what is left behind it. -/
  | stretch (directive : Option TokenKind) (source rest : List Char)
  /-- A comment that is not closed. -/
  | unclosed
  /-- The comment of a variable, behind which a list is not closed. -/
  | unbalanced (source : List Char)

namespace Piece

open Directive

/-- A variable with its test value. -/
def variableKind (embedded : Bool) (expression : String) (test : TestValue) : TokenKind :=
  if embedded then .embedded expression test else .bind expression test

/-- The piece that begins with a comment of this body. -/
def ofComment (body rest : List Char) : Piece :=
  match classify? body with
  | none => stretch none (comment body) rest
  | some (.plain kind) => stretch (some kind) (comment body) rest
  | some (.reference embedded path) =>
    match TestValue.read? rest with
    | none => unbalanced (comment body)
    | some (test, rest) =>
      stretch (some (variableKind embedded (String.ofList path) test))
        (comment body ++ test.text.toList) rest

/-- The piece that a text begins with. -/
def first : List Char → Piece
  | [] => nothing
  | '\'' :: cs => stretch none ('\'' :: (quotedTail cs).1) (quotedTail cs).2
  | '/' :: '*' :: cs =>
    match commentBody? (holdsStrings cs) 0 cs with
    | none => unclosed
    | some (body, rest) => ofComment body rest
  | '-' :: '-' :: cs =>
    let line := cs.takeWhile (· != '\n')
    let source := '-' :: '-' :: line
    stretch (if Token.isOtherwise line then some (.otherwise (String.ofList source)) else none)
      source (cs.dropWhile (· != '\n'))
  | c :: cs => stretch none [c] cs

/-- The text begins with this piece; there is one case for each way of taking a piece off. -/
inductive Begins : List Char → Piece → Prop
  /-- Nothing is left. -/
  | nothing : Begins [] nothing
  /-- A string. -/
  | string (cs : List Char) :
    Begins ('\'' :: cs) (stretch none ('\'' :: (quotedTail cs).1) (quotedTail cs).2)
  /-- A comment that is not closed. -/
  | unclosed {cs : List Char} (hbody : commentBody? (holdsStrings cs) 0 cs = none) :
    Begins ('/' :: '*' :: cs) unclosed
  /-- A comment that is no directive. -/
  | comment {cs body rest : List Char}
    (hbody : commentBody? (holdsStrings cs) 0 cs = some (body, rest))
    (hkind : classify? body = none) : Begins ('/' :: '*' :: cs) (stretch none (comment body) rest)
  /-- A directive that is no variable. -/
  | directive {cs body rest : List Char} {kind : TokenKind}
    (hbody : commentBody? (holdsStrings cs) 0 cs = some (body, rest))
    (hkind : classify? body = some (.plain kind)) :
    Begins ('/' :: '*' :: cs) (stretch (some kind) (comment body) rest)
  /-- A variable with its test value. -/
  | reference {cs body behind rest path : List Char} {embedded : Bool} {test : TestValue}
    (hbody : commentBody? (holdsStrings cs) 0 cs = some (body, behind))
    (hkind : classify? body = some (.reference embedded path))
    (htest : TestValue.read? behind = some (test, rest)) :
    Begins ('/' :: '*' :: cs)
      (stretch (some (variableKind embedded (String.ofList path) test))
        (comment body ++ test.text.toList) rest)
  /-- A variable with a list that is not closed. -/
  | unbalanced {cs body behind path : List Char} {embedded : Bool}
    (hbody : commentBody? (holdsStrings cs) 0 cs = some (body, behind))
    (hkind : classify? body = some (.reference embedded path))
    (htest : TestValue.read? behind = none) :
    Begins ('/' :: '*' :: cs) (unbalanced (comment body))
  /-- The separating line. -/
  | separator {cs : List Char} (hline : Token.isOtherwise (cs.takeWhile (· != '\n')) = true) :
    Begins ('-' :: '-' :: cs)
      (stretch (some (.otherwise (String.ofList ('-' :: '-' :: cs.takeWhile (· != '\n')))))
        ('-' :: '-' :: cs.takeWhile (· != '\n')) (cs.dropWhile (· != '\n')))
  /-- Any other line comment. -/
  | line {cs : List Char} (hline : ¬Token.isOtherwise (cs.takeWhile (· != '\n')) = true) :
    Begins ('-' :: '-' :: cs)
      (stretch none ('-' :: '-' :: cs.takeWhile (· != '\n')) (cs.dropWhile (· != '\n')))
  /-- A character that begins none of these. -/
  | char {c : Char} {cs : List Char} (hquote : c ≠ '\'')
    (hcomment : ∀ more, c = '/' → cs ≠ '*' :: more) (hline : ∀ more, c = '-' → cs ≠ '-' :: more) :
    Begins (c :: cs) (stretch none [c] cs)

/-- The first piece is taken off in one of these ways. -/
theorem begins_first (cs : List Char) : Begins cs (first cs) := by
  unfold first
  split
  · exact .nothing
  · exact .string _
  · split
    · next hbody => exact .unclosed hbody
    · next body behind hbody =>
      -- What a comment is depends on its body alone, but for the test value of a variable.
      unfold ofComment
      split
      · next hkind => exact .comment hbody hkind
      · next kind hkind => exact .directive hbody hkind
      · next embedded path hkind =>
        split
        · next htest => exact .unbalanced hbody hkind htest
        · next htest => exact .reference hbody hkind htest
  · next cs =>
    dsimp only
    split_ifs with hline
    · exact .separator hline
    · exact .line hline
  · next hquote hcomment hline => exact .char hquote hcomment hline

variable {cs source rest : List Char} {directive : Option TokenKind}

/-- The piece that is cut off begins the text. -/
theorem begins_of_first {piece : Piece} (h : first cs = piece) : Begins cs piece :=
  h ▸ begins_first cs

/-- A directive spells its token, and behind a separating line the line ends. -/
theorem spells_of_first {kind : TokenKind} (h : first cs = stretch (some kind) source rest) :
    kind.Spells source ∧ kind.isSql = false ∧
      (kind.isOtherwise = true → ∀ c ∈ rest.head?, c = '\n') := by
  cases begins_of_first h with
  | directive hbody hkind =>
    obtain ⟨hspells, hsql, hline⟩ := spells_of_classify?_plain hkind
    exact ⟨hspells, hsql, fun h => absurd (hline.symm.trans h) Bool.false_ne_true⟩
  | @reference _ _ _ _ path embedded _ hbody hkind htest =>
    -- The variable is spelled with the dollar sign or without.
    obtain ⟨hpath, hvariable⟩ := eq_of_classify?_reference hkind
    cases embedded with
    | true =>
      refine ⟨⟨?_, ?_⟩, rfl, fun h => absurd h Bool.false_ne_true⟩
      · rwa [String.toList_ofList]
      · rw [String.toList_ofList, hvariable, if_pos rfl]
    | false =>
      refine ⟨⟨?_, ?_⟩, rfl, fun h => absurd h Bool.false_ne_true⟩
      · rwa [String.toList_ofList]
      · rw [String.toList_ofList, hvariable, if_neg Bool.false_ne_true]
  | @separator cs hline =>
    have hend : '\n' ∉ cs.takeWhile (· != '\n') := fun hmem => by
      simpa using List.mem_takeWhile_imp hmem
    refine ⟨⟨?_, _, rfl, hend, hline⟩, rfl, fun _ => Token.eq_of_mem_head?_dropWhile cs⟩
    rw [String.toList_ofList]

/-- A stretch is what a text begins with, and no stretch is empty. -/
theorem eq_append (h : first cs = stretch directive source rest) :
    cs = source ++ rest ∧ source ≠ [] := by
  cases begins_of_first h with
  | string cs => simp [Template.quotedTail_append]
  | comment hbody | directive hbody => exact ⟨Token.eq_comment_append hbody, List.cons_ne_nil _ _⟩
  | reference hbody _ htest =>
    refine ⟨?_, List.cons_ne_nil _ _⟩
    rw [Token.eq_comment_append hbody, TestValue.eq_append_of_read? htest, List.append_assoc]
  | separator | line => simp [List.takeWhile_append_dropWhile]
  | char => simp

/-- Behind each stretch the text is shorter, so that an induction may go on from there. -/
theorem induction_on {motive : List Char → Prop} (cs : List Char)
    (h : ∀ cs, (∀ directive source rest, first cs = stretch directive source rest → motive rest) →
      motive cs) : motive cs := by
  induction hlength : cs.length using Nat.strong_induction_on generalizing cs with
  | _ length ih =>
    refine h cs fun directive source rest hfirst => ih rest.length ?_ rest rfl
    obtain ⟨rfl, hsource⟩ := eq_append hfirst
    have hpos := List.length_pos_iff.2 hsource
    rw [List.length_append] at hlength
    omega

end Piece

namespace Token

/-- A stretch before what has been read, which starts at `next`. -/
def Scanned.afterStretch (directive : Option TokenKind) (source : List Char) (offset next : Nat)
    (scanned : Scanned) : Scanned :=
  match directive with
  | none => scanned.afterSql source
  | some kind => scanned.afterDirective ⟨kind, offset⟩ next

/-- Reading on behind a piece. -/
def scanPiece (offset : Nat) : Piece → Except ParseError Scanned
  | .nothing => .ok ([], [])
  | .stretch directive source rest =>
    let next := offset + Text.utf8Size source
    (scan next rest).map (Scanned.afterStretch directive source offset next)
  | .unclosed => .error (.unclosedDirective offset)
  | .unbalanced source => .error (.unbalancedTestValue (offset + Text.utf8Size source))

/-- A text is read piece by piece. -/
theorem scan_eq (offset : Nat) (cs : List Char) :
    scan offset cs = scanPiece offset (.first cs) := by
  fun_cases scan offset cs with
  | case1 => rfl
  | case2 cs source => rfl
  | case3 cs hbody =>
    simp only [Piece.first, hbody]
    rfl
  | case4 cs body rest hbody _ source next hkind =>
    simp only [Piece.first, hbody, Piece.ofComment, hkind]
    rfl
  | case5 cs body rest hbody _ source next kind hkind =>
    simp only [Piece.first, hbody, Piece.ofComment, hkind]
    rfl
  | case6 cs body rest hbody _ source next embedded path hkind htest =>
    simp only [Piece.first, hbody, Piece.ofComment, hkind, htest]
    rfl
  | case7 cs body rest hbody _ source next embedded path hkind test rest' htest _ kind next' =>
    -- The piece of a variable ends behind its test value.
    have hnext : offset + Text.utf8Size (comment body ++ test.text.toList) = next' := by
      rw [Text.utf8Size_append, ← Nat.add_assoc]
      rfl
    simp only [Piece.first, hbody, Piece.ofComment, hkind, htest, scanPiece, hnext]
    rfl
  | case8 cs line source next _ hline =>
    simp only [Piece.first, scanPiece]
    rw [if_pos hline]
    rfl
  | case9 cs line source next _ hline =>
    simp only [Piece.first, scanPiece]
    rw [if_neg hline]
    rfl
  | case10 c cs hquote hcomment hline =>
    have hfirst : Piece.first (c :: cs) = .stretch none [c] cs := by
      unfold Piece.first
      split <;> simp_all
    rw [hfirst]
    rfl

end Token

/-! ## Piece by piece -/

namespace Token

open Template Directive

/-- The stretch is the comment of a variable, without a test value. -/
def IsReference (source : List Char) : Prop :=
  ∃ path, isVariable path ∧ (source = comment path ∨ source = comment ('$' :: path))

/-- What reading a text from an offset on comes to, piece by piece. -/
inductive Scans : Nat → List Char → Except ParseError Scanned → Prop
  /-- Nothing is left. -/
  | nil (offset : Nat) : Scans offset [] (.ok ([], []))
  /-- A stretch of plain SQL. -/
  | sql {offset : Nat} {source rest : List Char} {outcome : Except ParseError Scanned}
      (hsource : source ≠ []) (hrest : Scans (offset + Text.utf8Size source) rest outcome) :
      Scans offset (source ++ rest) (outcome.map (Scanned.afterSql source))
  /-- A directive. Behind the line that separates two parts, the line ends. -/
  | directive {offset : Nat} {source rest : List Char} {outcome : Except ParseError Scanned}
      {kind : TokenKind} (hspells : kind.Spells source) (hsql : kind.isSql = false)
      (hline : kind.isOtherwise = true → ∀ c ∈ rest.head?, c = '\n')
      (hrest : Scans (offset + Text.utf8Size source) rest outcome) :
      Scans offset (source ++ rest)
        (outcome.map (Scanned.afterDirective ⟨kind, offset⟩ (offset + Text.utf8Size source)))
  /-- A comment that is not closed. -/
  | unclosed (offset : Nat) (rest : List Char) :
      Scans offset ('/' :: '*' :: rest) (.error (.unclosedDirective offset))
  /-- A list that stands for a variable and is not closed. -/
  | unbalanced {offset : Nat} {source : List Char} (hsource : IsReference source)
      (rest : List Char) :
      Scans offset (source ++ '(' :: rest)
        (.error (.unbalancedTestValue (offset + Text.utf8Size source)))

/-- Every text is read piece by piece. -/
theorem scans_scan (offset : Nat) (cs : List Char) : Scans offset cs (scan offset cs) := by
  induction cs using Piece.induction_on generalizing offset with
  | _ cs ih =>
    rw [scan_eq]
    cases hfirst : Piece.first cs with
    | nothing =>
      cases Piece.begins_of_first hfirst
      exact .nil offset
    | stretch directive source rest =>
      obtain ⟨rfl, hsource⟩ := Piece.eq_append hfirst
      have hrest := ih directive source rest hfirst (offset + Text.utf8Size source)
      cases directive with
      | none => exact .sql hsource hrest
      | some kind =>
        obtain ⟨hspells, hsql, hline⟩ := Piece.spells_of_first hfirst
        exact .directive hspells hsql hline hrest
    | unclosed =>
      cases Piece.begins_of_first hfirst
      exact .unclosed offset _
    | unbalanced source =>
      cases Piece.begins_of_first hfirst with
      | @unbalanced _ body _ path embedded hbody hkind htest =>
        obtain ⟨hpath, hvariable⟩ := eq_of_classify?_reference hkind
        -- The test value that is not closed starts with a parenthesis.
        obtain ⟨more, rfl⟩ := TestValue.exists_eq_cons_of_read? htest
        rw [eq_comment_append hbody]
        refine .unbalanced ⟨path, hpath, ?_⟩ more
        cases embedded with
        | true => exact .inr (congrArg comment hvariable)
        | false => exact .inl (congrArg comment hvariable)

end Token

end SqlTemplate
