import SqlTemplate.Proofs.Statement.Counting
import SqlTemplate.Proofs.Template.Reading
import SqlTemplate.Render.Walk

/-!
# Where plain SQL ends

The reading of a template and the count of placeholders pass over strings and comments each in its
own way. They agree on where a string ends and on where a line comment ends, and on a block comment
unless another one opens inside it: the reading looks for the end that matches the start, and the
count for the next end.

So of a text that leaves no such comment in its plain SQL (`Token.comments`), the count is outside
strings and comments wherever the reading comes upon a directive. `Token.isChain_closedBefore` says
so of the tokens: plain SQL that is followed by another token ends outside.
-/

namespace SqlTemplate

open Template (quotedTail commentBody?)
open Variable (holdsComment)

/-! ## Strings and comments -/

namespace Mode

/-- The count ends a string where the reading does, unless it is not closed. -/
theorem after_quotedTail (cs : List Char) :
    (quotedTail cs).2 = [] ∨ quoted.after (quotedTail cs).1 = code := by
  fun_induction quotedTail cs with
  | case1 => exact .inl rfl
  | case2 cs tail rest heq ih =>
    -- A doubled quote ends one string and starts another one.
    rwa [heq] at ih
  | case3 cs => exact .inr rfl
  | case4 c cs hdoubled hquote tail rest heq ih =>
    have hc : quoted.next c = quoted := if_neg hquote
    rw [heq] at ih
    simpa only [after_cons, hc] using ih

/-- The count ends a comment where the reading does, if no other one opens inside it. -/
theorem after_commentBody? {withStrings : Bool} {nested : Nat} {cs body rest : List Char}
    (h : commentBody? withStrings nested cs = some (body, rest)) (hstrings : withStrings = false)
    (hnested : nested = 0) (hinner : holdsComment body = false) :
    block.after (body ++ ['*', '/']) = code := by
  fun_induction commentBody? withStrings nested cs generalizing body with
  | case1 => simp at h
  | case2 nested cs ih =>
    obtain ⟨⟨inner, _⟩, h', heq⟩ := Option.map_eq_some_iff.1 h
    obtain ⟨rfl, rfl⟩ := Prod.mk.inj heq
    exact absurd hinner Bool.false_ne_true.symm
  | case3 cs =>
    obtain ⟨rfl, rfl⟩ := Prod.mk.inj (Option.some.inj h)
    rfl
  | case4 => exact absurd hnested (Nat.succ_ne_zero _)
  -- Strings are not told apart here, and the first end is that of the comment.
  | case5 nested c cs _ _ hstring => simp [hstrings] at hstring
  | case6 nested c cs hopen hclose _ ih =>
    obtain ⟨⟨inner, _⟩, h', heq⟩ := Option.map_eq_some_iff.1 h
    obtain ⟨rfl, rfl⟩ := Prod.mk.inj heq
    have htail := Template.eq_append_of_commentBody? h'
    have hrest : holdsComment inner = false := by
      rw [holdsComment] at hinner
      · exact hinner
      · intro more hc hmore
        rw [hmore] at htail
        exact hopen _ hc htail
    -- The character is no star before a slash, so the comment goes on.
    have hend : c = '*' → (inner ++ ['*', '/']).head? ≠ some '/' := by
      intro hc hhead
      obtain ⟨more, hcs⟩ : ∃ more, cs = '/' :: more := by
        refine List.head?_eq_some_iff.1 ?_
        rw [htail, ← hhead]
        cases inner <;> rfl
      exact hclose more hc hcs
    rw [List.cons_append, after_cons, (next_block_eq hend (by simp)).1]
    exact ih h' hnested hrest

/-- A line comment has no end of its own. -/
theorem after_line {cs : List Char} (h : '\n' ∉ cs) : line.after cs = line := by
  induction cs with
  | nil => rfl
  | cons c cs ih =>
    simp only [List.mem_cons, not_or] at h
    have hc : line.next c = line := if_neg (Ne.symm h.1)
    rw [after_cons, hc, ih h.2]

/-- A line comment is read up to the end of its line. -/
theorem after_lineComment (cs : List Char) :
    code.after ('-' :: '-' :: cs.takeWhile (· != '\n')) = line := by
  refine after_line fun hmem => ?_
  simpa using List.mem_takeWhile_imp hmem

end Mode

/-! ## One piece -/

namespace Piece

variable {cs source rest : List Char}

/-- The body of the comment that stays in the plain SQL, if the piece is one. -/
def comment? : Piece → Option (List Char)
  | stretch none ('/' :: '*' :: tail) _ => some tail.dropLast.dropLast
  | _ => none

/-- The body of a comment is found in it. -/
theorem comment?_comment (body rest : List Char) :
    (stretch none (comment body) rest).comment? = some body := by
  simp [comment?, comment]

/-- Behind plain SQL the count is outside strings and comments, or at the end of a line comment,
and reads on as if the text began there. -/
theorem joins_of_first (h : first cs = stretch none source rest)
    (hinner : ∀ body, source = comment body → holdsComment body = false) (hrest : rest ≠ []) :
    (Mode.code.after source).Joins rest ∧
      ((Mode.code.after source).isOutside = true ∨ rest.head? = some '\n') := by
  generalize hdirective : (none : Option TokenKind) = directive at h
  -- On the kind of the piece: strings, comments and lines are closed, and a character opens
  -- nothing.
  cases begins_of_first h with
  | string cs =>
    have hclosed := (Mode.after_quotedTail cs).resolve_left hrest
    have hcode : Mode.code.after ('\'' :: (quotedTail cs).1) = .code := hclosed
    rw [hcode]
    exact ⟨Mode.joins_code _, .inl rfl⟩
  | @comment cs body _ hbody hkind =>
    have hcs := Template.eq_append_of_commentBody? hbody
    rw [hcs, Directive.holdsStrings_comment, Directive.holdsStrings_of_classify? hkind] at hbody
    have hcode : Mode.code.after (comment body) = .code :=
      Mode.after_commentBody? hbody rfl rfl (hinner body rfl)
    rw [hcode]
    exact ⟨Mode.joins_code _, .inl rfl⟩
  | @line cs hline =>
    have hhead : (cs.dropWhile (· != '\n')).head? = some '\n' := by
      obtain ⟨c, more, hmore⟩ := List.exists_cons_of_ne_nil hrest
      have hc := Token.eq_of_mem_head?_dropWhile cs c (by rw [hmore]; rfl)
      rw [hmore, hc, List.head?_cons]
    rw [Mode.after_lineComment]
    refine ⟨fun c hc => ?_, .inr hhead⟩
    rw [hhead] at hc
    obtain rfl := Option.some.inj hc
    rfl
  | char hquote hcomment hline =>
    obtain ⟨houtside, hjoins⟩ := Mode.joins_next hquote hcomment hline
    exact ⟨hjoins, .inl houtside⟩
  | directive | reference | separator => simp at hdirective

/-- The separating line is a line comment, and behind it the line ends. -/
theorem line_of_first {text : String}
    (h : first cs = stretch (some (.otherwise text)) source rest) :
    Mode.code.after text.toList = .line ∧ ∀ c ∈ rest.head?, c = '\n' := by
  generalize hdirective : some (TokenKind.otherwise text) = directive at h
  cases begins_of_first h with
  | @separator cs hline =>
    obtain rfl := TokenKind.otherwise.inj (Option.some.inj hdirective)
    rw [String.toList_ofList]
    exact ⟨Mode.after_lineComment cs, Token.eq_of_mem_head?_dropWhile cs⟩
  | directive hbody hkind =>
    obtain ⟨-, -, hotherwise⟩ := Directive.spells_of_classify?_plain hkind
    rw [← Option.some.inj hdirective] at hotherwise
    exact absurd hotherwise Bool.false_ne_true.symm
  | @reference _ _ _ _ _ embedded => cases embedded <;> simp [variableKind] at hdirective
  | string | comment | line | char => simp at hdirective

end Piece

/-! ## The tokens -/

namespace Token

/-- The bodies of the comments that reading a text leaves in the plain SQL. -/
def comments (cs : List Char) : List (List Char) :=
  match h : Piece.first cs with
  | .stretch directive source rest =>
    have : rest.length < cs.length := by
      obtain ⟨rfl, hsource⟩ := Piece.eq_append h
      have hpos := List.length_pos_iff.2 hsource
      rw [List.length_append]
      omega
    (Piece.stretch directive source rest).comment?.toList ++ comments rest
  | _ => []
termination_by cs.length

/-- The token ends outside strings and comments, or it is a separating line, and the next token
begins with the end of the line. -/
def ClosedBefore (a b : Token) : Prop :=
  match a.kind with
  | .sql text => (Mode.code.after text.toList).isOutside = true
  | .otherwise text => Mode.code.after text.toList = .line ∧
    ∃ next, b.kind = .sql next ∧ next.toList.head? = some '\n'
  | _ => True

variable {offset : Nat} {cs : List Char} {scanned : Scanned}

/-- The comments of a text are the one that it begins with, if it does, and those behind. -/
theorem comments_of_first {source rest : List Char} {directive : Option TokenKind}
    (h : Piece.first cs = .stretch directive source rest) :
    comments cs = (Piece.stretch directive source rest).comment?.toList ++ comments rest := by
  rw [comments]
  split
  · next hfirst =>
    obtain ⟨rfl, rfl, rfl⟩ := Piece.stretch.inj (h.symm.trans hfirst)
    rfl
  · next hother => exact absurd h (hother _ _ _)

/-- The plain SQL that has been read first is what the text begins with. -/
theorem head?_of_scan (h : scan offset cs = .ok scanned) :
    ∀ c ∈ scanned.1.head?, c ∈ cs.head? := by
  obtain ⟨pieces, hcs, -⟩ := (scans_scan offset cs).exists_covers h
  intro c hc
  obtain ⟨sql, hsql⟩ := List.head?_eq_some_iff.1 hc
  rw [hcs, hsql]
  rfl

/-- The end of a line is plain SQL. -/
theorem head?_of_scan_newline (h : scan offset cs = .ok scanned) (hcs : cs.head? = some '\n') :
    scanned.1.head? = some '\n' := by
  obtain ⟨cs, rfl⟩ := List.head?_eq_some_iff.1 hcs
  rw [scan_eq] at h
  obtain ⟨inner, -, rfl⟩ := Outcome.map_eq_ok.1 h
  rfl

/-- Plain SQL before tokens, which ends outside strings and comments if there are any. -/
theorem isChain_closedBefore_append {sql : List Char} {tokens : List Token}
    (hends : tokens ≠ [] → (Mode.code.after sql).isOutside = true)
    (hchain : tokens.IsChain ClosedBefore) :
    (plainSql offset sql ++ tokens).IsChain ClosedBefore := by
  unfold plainSql
  split_ifs
  · exact hchain
  · refine hchain.cons fun token htoken => ?_
    show (Mode.code.after (String.ofList sql).toList).isOutside = true
    rw [String.toList_ofList]
    exact hends (List.ne_nil_of_mem (List.mem_of_mem_head? htoken))

/-- Nothing is read of an empty text. -/
theorem eq_of_scan_nil (h : scan offset [] = .ok scanned) : scanned = ([], []) := by
  rw [scan_eq] at h
  exact (Except.ok.inj h).symm

/-- A piece of plain SQL leaves the end of the plain SQL behind it as it is. -/
theorem isOutside_append_of_first {source rest : List Char}
    (hfirst : Piece.first cs = .stretch none source rest)
    (hinner : ∀ body, source = comment body → holdsComment body = false)
    (h : scan offset rest = .ok scanned) (htokens : scanned.2 ≠ [])
    (hends : (Mode.code.after scanned.1).isOutside = true) :
    (Mode.code.after (source ++ scanned.1)).isOutside = true := by
  have hrest : rest ≠ [] := by
    rintro rfl
    rw [eq_of_scan_nil h] at htokens
    exact htokens rfl
  obtain ⟨hjoins, hmode⟩ := Piece.joins_of_first hfirst hinner hrest
  rw [Mode.after_append]
  by_cases hsql : scanned.1 = []
  · -- A directive follows at once, so that the piece is no line comment.
    rw [hsql, Mode.after_nil]
    refine hmode.resolve_right fun hline => ?_
    have hnewline := head?_of_scan_newline h hline
    simp [hsql] at hnewline
  · have hjoinsSql : (Mode.code.after source).Joins scanned.1 :=
      fun c hc => hjoins c (head?_of_scan h c hc)
    rwa [hjoinsSql.after_eq hsql]

/-- Behind a separating line comes plain SQL that begins with the end of the line, or nothing. -/
theorem closedBefore_of_first {source rest : List Char} {kind : TokenKind} {start : Nat}
    (hfirst : Piece.first cs = .stretch (some kind) source rest)
    (h : scan offset rest = .ok scanned) :
    ∀ token ∈ (plainSql offset scanned.1 ++ scanned.2).head?, ClosedBefore ⟨kind, start⟩ token := by
  intro token htoken
  cases kind with
  | otherwise text =>
    obtain ⟨hline, hhead⟩ := Piece.line_of_first hfirst
    refine ⟨hline, ?_⟩
    cases rest with
    | nil =>
      rw [eq_of_scan_nil h] at htoken
      simp [plainSql] at htoken
    | cons c rest =>
      -- What follows the line starts with its end.
      have hnewline := head?_of_scan_newline h (congrArg some (hhead c rfl))
      obtain ⟨sql, hsql⟩ := List.head?_eq_some_iff.1 hnewline
      rw [hsql] at htoken
      obtain rfl := Option.some.inj htoken
      refine ⟨_, rfl, ?_⟩
      rw [String.toList_ofList]
      rfl
  | sql => exact absurd (Piece.spells_of_first hfirst).2.1 Bool.false_ne_true.symm
  | _ => exact trivial

/-- Wherever the reading comes upon a directive, the count is outside strings and comments. -/
theorem ends_of_scan (h : scan offset cs = .ok scanned)
    (hinner : ∀ body ∈ comments cs, holdsComment body = false) :
    (scanned.2 ≠ [] → (Mode.code.after scanned.1).isOutside = true) ∧
      scanned.2.IsChain ClosedBefore := by
  induction cs using Piece.induction_on generalizing offset scanned with
  | _ cs ih =>
    rw [scan_eq] at h
    cases hfirst : Piece.first cs with
    | nothing =>
      rw [hfirst] at h
      obtain rfl := Except.ok.inj h
      exact ⟨fun h => absurd rfl h, .nil⟩
    | unclosed | unbalanced => simp [hfirst, scanPiece] at h
    | stretch directive source rest =>
      rw [hfirst] at h
      obtain ⟨behind, hbehind, rfl⟩ := Outcome.map_eq_ok.1 h
      obtain ⟨hends, hchain⟩ :=
        ih directive source rest hfirst hbehind fun body hbody => by
          rw [comments_of_first hfirst] at hinner
          exact hinner body (List.mem_append_right _ hbody)
      cases directive with
      | none =>
        refine ⟨fun htokens => ?_, hchain⟩
        -- The piece joins the text behind it, up to the next directive.
        refine isOutside_append_of_first hfirst ?_ hbehind htokens (hends htokens)
        rintro body rfl
        rw [comments_of_first hfirst, Piece.comment?_comment] at hinner
        exact hinner body List.mem_cons_self
      | some kind =>
        refine ⟨fun _ => rfl, (isChain_closedBefore_append hends hchain).cons ?_⟩
        exact closedBefore_of_first hfirst hbehind

/-- Of a text that leaves no comment with another one inside in its plain SQL, each token is closed
before the next one. -/
theorem isChain_closedBefore {text : String} {tokens : List Token}
    (h : ofText text = .ok tokens)
    (hinner : ∀ body ∈ comments text.toList, holdsComment body = false) :
    tokens.IsChain ClosedBefore := by
  obtain ⟨scanned, hscan, rfl⟩ := Outcome.map_eq_ok.1 h
  obtain ⟨hends, hchain⟩ := ends_of_scan hscan hinner
  exact isChain_closedBefore_append hends hchain

end Token

end SqlTemplate
