import SqlTemplate.Proofs.Engine.Session
import SqlTemplate.Proofs.Render.FaultKind
import SqlTemplate.Proofs.Render.Relaxing
import SqlTemplate.Proofs.Template.Directives
import SqlTemplate.Proofs.Text.Quotes

/-!
# Test values do not show

Behind a variable stands its test value, which makes the template a statement that runs by itself.
Another test value of the same form changes the token of the variable and the places behind it, and
nothing else: `Token.agree_ofText` compares the tokens of the two texts, and
`Session.rendered_testValue` adds that rendering them comes to the same.

The reading of the text before the variable looks ahead, but what it sees looks alike in both texts.
Behind the variable the two texts are the same, read from different offsets. So the two trees are
the same but for the texts of their test values, which a walk does not look at.
-/

namespace SqlTemplate

open Outcome (Agree)

namespace TestValue

open Text (doubleQuotes)

/-- An ASCII letter or digit, `_` or a point. -/
def isWordChar (c : Char) : Bool :=
  c.isAlphanum || c == '_' || c == '.'

/-- A character of a word is none that is not. -/
theorem ne_of_isWordChar {c d : Char} (hc : isWordChar c) (hd : isWordChar d = false) : c ≠ d := by
  rintro rfl
  exact absurd (hd.symm.trans hc) Bool.false_ne_true

/-- The forms of test value that are no lists: a word of ASCII letters, digits, `_` and points, or
a text in quotes with its own quotes doubled. -/
inductive OfForm : (quoted : Bool) → List Char → Prop
  /-- A word. -/
  | word {cs : List Char} (hne : cs ≠ []) (h : ∀ c ∈ cs, isWordChar c) : OfForm false cs
  /-- A text in quotes. -/
  | string (cs : List Char) : OfForm true ('\'' :: (doubleQuotes cs ++ ['\'']))

variable {quoted : Bool} {cs rest : List Char}

/-- Only a text in quotes holds a quote. -/
theorem OfForm.quote_mem_iff (h : OfForm quoted cs) : '\'' ∈ cs ↔ quoted = true := by
  cases h with
  | word _ h => exact ⟨fun hmem => absurd (h _ hmem) (by decide), nofun⟩
  | string => simp

/-- A character of a word ends no word. -/
theorem endsWord_cons_of_isWordChar {c : Char} (hc : isWordChar c) :
    endsWord (c :: cs) = false := by
  have hne : ∀ d, isWordChar d = false → c ≠ d := fun d => ne_of_isWordChar hc
  rw [endsWord_cons (fun _ h => absurd h (hne '/' (by decide)))
    (fun _ h => absurd h (hne '-' (by decide)))]
  simp [Text.isAsciiBlank, hne ' ' (by decide), hne '\t' (by decide), hne '\n' (by decide),
    hne '\x0c' (by decide), hne '\r' (by decide), hne ',' (by decide), hne ')' (by decide),
    hne ';' (by decide)]

/-- A word is read up to the first place where something ends it. -/
theorem word_append_of_isWordChar (h : ∀ c ∈ cs, isWordChar c) (hrest : endsWord rest) :
    word (cs ++ rest) = (cs, rest) := by
  induction cs with
  | nil => exact word_of_endsWord hrest
  | cons c cs ih =>
    rw [List.forall_mem_cons] at h
    rw [List.cons_append, word, endsWord_cons_of_isWordChar h.1, ih h.2]
    rfl

/-- A text in quotes is read up to its closing quote. -/
theorem quotedTail_doubleQuotes (cs : List Char) (hrest : ∀ c ∈ rest.head?, c ≠ '\'') :
    Template.quotedTail (doubleQuotes cs ++ '\'' :: rest) = (doubleQuotes cs ++ ['\''], rest) := by
  induction cs with
  | nil =>
    show Template.quotedTail ('\'' :: rest) = _
    -- The quote ends the string, since no second one stands behind it.
    rw [Template.quotedTail]
    · rfl
    · rintro more rfl
      exact hrest '\'' rfl rfl
  | cons c cs ih =>
    by_cases hc : c = '\''
    · subst hc
      rw [Text.doubleQuotes_quote, List.cons_append, List.cons_append, Template.quotedTail, ih]
      rfl
    · rw [Text.doubleQuotes_cons_of_ne hc, List.cons_append, Template.quotedTail, ih]
      · rfl
      · exact fun _ h => absurd h hc
      · exact hc

/-- A test value is read as far as it goes. -/
theorem OfForm.read? (h : OfForm quoted cs) (hrest : endsWord rest) :
    read? (cs ++ rest) = some (⟨String.ofList cs, quoted, false⟩, rest) := by
  cases h with
  | word hne h =>
    cases cs with
    | nil => exact absurd rfl hne
    | cons c cs =>
      have hword := word_append_of_isWordChar h hrest
      have hc := (List.forall_mem_cons.1 h).1
      rw [List.cons_append] at hword ⊢
      rw [TestValue.read?, hword]
      · exact fun _ heq => ne_of_isWordChar hc (by decide) (List.cons.inj heq).1
      · exact fun _ heq => ne_of_isWordChar hc (by decide) (List.cons.inj heq).1
  | string cs =>
    -- A word cannot end before a quote, so the string ends at its own.
    have hhead : ∀ c ∈ rest.head?, c ≠ '\'' := by
      rintro c hc rfl
      obtain ⟨more, rfl⟩ := List.head?_eq_some_iff.1 hc
      have hends : endsWord ('\'' :: more) = false :=
        endsWord_cons (fun _ h => absurd h (by decide)) (fun _ h => absurd h (by decide))
      exact absurd (hends.symm.trans hrest) Bool.false_ne_true
    rw [List.cons_append, List.append_assoc, List.singleton_append, TestValue.read?,
      quotedTail_doubleQuotes cs hhead]

end TestValue

/-! ## The tokens -/

/-- A fault that is moved, or has its texts replaced, stays of its kind. -/
theorem ParseError.kind_revise (r : Revision) (e : ParseError) : (e.revise r).kind = e.kind := by
  cases e <;> rfl

/-- A first stretch of a text that is not longer than another one is the start of that one. -/
theorem exists_append_of_utf8Size_le {source behind before after : List Char}
    (h : source ++ behind = before ++ after)
    (hsize : Text.utf8Size source ≤ Text.utf8Size before) :
    ∃ between, before = source ++ between ∧ behind = between ++ after := by
  rcases List.append_eq_append_iff.1 h with ⟨between, hbefore, hbehind⟩ | ⟨more, rfl, hafter⟩
  · exact ⟨between, hbefore, hbehind⟩
  · have hmore : more = [] := by
      by_contra hne
      have hpos := Text.utf8Size_pos hne
      rw [Text.utf8Size_append] at hsize
      omega
    subst hmore
    exact ⟨[], by simp, by simpa using hafter.symm⟩

namespace Token

/-- The token is another one in its place only, which has `size'` bytes before it instead of
`size`. -/
def Moved (size size' : Nat) (token token' : Token) : Prop :=
  token'.kind = token.kind ∧ token'.offset + size = token.offset + size'

/-- The tokens are others in one token only and in the places of those behind it. -/
def Exchanged (token token' : Token) (size size' : Nat) (tokens tokens' : List Token) : Prop :=
  ∃ before after after', tokens = before ++ token :: after ∧ tokens' = before ++ token' :: after' ∧
    List.Forall₂ (Moved size size') after after'

/-- A common first part does not matter. -/
theorem Exchanged.append_left {token token' : Token} {size size' : Nat}
    {tokens tokens' : List Token} (h : Exchanged token token' size size' tokens tokens')
    (first : List Token) :
    Exchanged token token' size size' (first ++ tokens) (first ++ tokens') := by
  obtain ⟨before, after, after', rfl, rfl, hafter⟩ := h
  exact ⟨first ++ before, after, after', by simp, by simp, hafter⟩

/-- What has been read differs in one token and in the places of those behind it. -/
def Scanned.Exchanged (token token' : Token) (size size' : Nat) (scanned scanned' : Scanned) :
    Prop :=
  scanned.1 = scanned'.1 ∧ Token.Exchanged token token' size size' scanned.2 scanned'.2

/-- All tokens that are read stand behind the offset at which the reading begins. -/
theorem le_offset_of_scan {offset : Nat} {cs : List Char} {scanned : Scanned}
    (h : scan offset cs = .ok scanned) : ∀ token ∈ scanned.2, offset ≤ token.offset := by
  obtain ⟨pieces, -, hcovers⟩ := (scans_scan offset cs).exists_covers h
  intro token htoken
  have hle := hcovers.sorted.1 token htoken
  omega

/-- The rest of a text is read in the same way behind a stretch of another size. -/
theorem agree_scan_behind (base size size' : Nat) (rest : List Char) :
    Agree ParseError.kind
      (fun scanned scanned' : Scanned =>
        scanned.1 = scanned'.1 ∧ List.Forall₂ (Moved size size') scanned.2 scanned'.2)
      (scan (base + size) rest) (scan (base + size') rest) := by
  -- The same text is scanned at another offset, and every offset moves by the same.
  let place (offset : Nat) : Nat := offset + size' - size
  have hplace : ∀ k, place (base + size + k) = place (base + size) + k := by
    intro k
    show base + size + k + size' - size = base + size + size' - size + k
    omega
  have hbase : place (base + size) = base + size' := by
    show base + size + size' - size = base + size'
    omega
  have hscan := @scan_move _ rest _ hplace
  rw [hbase] at hscan
  rw [hscan]
  cases hrest : scan (base + size) rest with
  | error e => exact .error (e.kind_revise { place }).symm
  | ok scanned =>
    refine .ok ⟨rfl, List.forall₂_map_right_iff.2 (List.forall₂_same.2 fun token htoken => ?_)⟩
    have hle := le_offset_of_scan hrest token htoken
    refine ⟨?_, ?_⟩
    · obtain ⟨kind, offset⟩ := token
      cases kind <;> rfl
    · show token.offset + size' - size + size = token.offset + size'
      omega

/-- So is the plain SQL that the rest begins with. -/
theorem forall₂_moved_plainSql (base size size' : Nat) (sql : List Char) :
    List.Forall₂ (Moved size size') (plainSql (base + size) sql) (plainSql (base + size') sql) := by
  unfold plainSql
  split_ifs
  · exact .nil
  · exact .cons ⟨rfl, Nat.add_right_comm ..⟩ .nil

/-- A stretch in front of what has been read keeps it the same but for one token. -/
theorem Scanned.Exchanged.afterStretch {token token' : Token} {size size' : Nat}
    {scanned scanned' : Scanned} (h : Exchanged token token' size size' scanned scanned')
    (directive : Option TokenKind) (source : List Char) (offset next : Nat) :
    Exchanged token token' size size' (scanned.afterStretch directive source offset next)
      (scanned'.afterStretch directive source offset next) := by
  obtain ⟨hsql, htokens⟩ := h
  cases directive with
  | none => exact ⟨congrArg (source ++ ·) hsql, htokens⟩
  | some kind =>
    refine ⟨rfl, ?_⟩
    show Token.Exchanged token token' size size' (⟨kind, offset⟩ :: plainSql next scanned.1 ++ _)
      (⟨kind, offset⟩ :: plainSql next scanned'.1 ++ _)
    rw [hsql]
    exact htokens.append_left _

variable {embedded quoted : Bool} {expression : String} {value value' rest : List Char}

/-- The comment of a variable. -/
def variableComment (embedded : Bool) (expression : String) : List Char :=
  comment (if embedded then '$' :: expression.toList else expression.toList)

/-- The token of a variable with a test value that is no list. -/
def ofVariable (embedded : Bool) (expression : String) (quoted : Bool) (value : String)
    (offset : Nat) : Token :=
  ⟨Piece.variableKind embedded expression ⟨value, quoted, false⟩, offset⟩

/-- Where reading comes upon a variable, reading the text with another test value comes upon the
same, but for this test value. -/
theorem agree_scan (hvalue : TestValue.OfForm quoted value)
    (hvalue' : TestValue.OfForm quoted value') (hrest : TestValue.endsWord rest)
    {offset : Nat} {cs before : List Char} {token : Token} {test : TestValue}
    (hreads : Reads offset cs token)
    (hcs : cs = before ++ (variableComment embedded expression ++ (value ++ rest)))
    (htoken : token =
      ⟨Piece.variableKind embedded expression test, offset + Text.utf8Size before⟩) :
    Agree ParseError.kind
      (Scanned.Exchanged (ofVariable embedded expression quoted (String.ofList value) token.offset)
        (ofVariable embedded expression quoted (String.ofList value') token.offset)
        (Text.utf8Size value) (Text.utf8Size value'))
      (scan offset cs)
      (scan offset (before ++ (variableComment embedded expression ++ (value' ++ rest)))) := by
  have hquote : '\'' ∈ value ++ rest ↔ '\'' ∈ value' ++ rest := by
    rw [List.mem_append, List.mem_append, hvalue.quote_mem_iff, hvalue'.quote_mem_iff]
  induction hreads generalizing before with
  | @here offset cs source behind kind hfirst =>
    -- The text begins with the variable.
    obtain ⟨rfl, hoffset⟩ := Token.mk.inj htoken
    have hbefore : before = [] := by
      by_contra hne
      have hpos := Text.utf8Size_pos hne
      omega
    subst hbefore
    obtain ⟨body, after, hbody, hcs', htest, hother⟩ := Piece.first_eq_variable hfirst
    have hcomment : comment body = variableComment embedded expression := congrArg comment hbody
    rw [hcomment] at hcs' hother
    obtain rfl : after = value ++ rest := List.append_cancel_left (hcs'.symm.trans hcs)
    have hfirst₁ := hother _ Iff.rfl _ _ (hvalue.read? hrest)
    have hfirst₂ := hother _ hquote _ _ (hvalue'.read? hrest)
    rw [hcs', List.nil_append, scan_eq, scan_eq, hfirst₁, hfirst₂, scanPiece, scanPiece,
      String.toList_ofList, String.toList_ofList, Text.utf8Size_append, Text.utf8Size_append,
      ← Nat.add_assoc, ← Nat.add_assoc]
    refine (agree_scan_behind _ _ _ rest).map fun {scanned scanned'} h => ?_
    obtain ⟨hsql, htokens⟩ := h
    have hplain := forall₂_moved_plainSql
      (offset + Text.utf8Size (variableComment embedded expression)) (Text.utf8Size value)
      (Text.utf8Size value') scanned.1
    refine ⟨rfl, [], _, _, rfl, rfl, ?_⟩
    rw [← hsql]
    exact List.rel_append hplain htokens
  | @behind offset cs source behind directive token hfirst hbehind ih =>
    -- What the text begins with ends before the variable, and the rests look alike.
    obtain ⟨rfl, -⟩ := Piece.eq_append hfirst
    have hle := hbehind.le_offset
    rw [htoken] at hle
    obtain ⟨before, rfl, rfl⟩ := exists_append_of_utf8Size_le hcs (by
      dsimp only at hle
      omega)
    have halike : LookAlike (variableComment embedded expression ++ (value ++ rest))
        (variableComment embedded expression ++ (value' ++ rest)) :=
      ⟨rfl, by rw [List.mem_append, hquote, ← List.mem_append]⟩
    have hfirst' := Piece.first_alike hfirst (halike.append before)
    rw [List.append_assoc, scan_eq, scan_eq, hfirst, hfirst', scanPiece, scanPiece]
    have hagree := ih rfl (by rw [htoken, Text.utf8Size_append, Nat.add_assoc])
    exact hagree.map fun h => h.afterStretch directive source offset _

end Token

/-! ## The tree -/

/-- Leaving out the texts of test values, and places. -/
def Revision.blank : Revision where
  test test := { test with text := "" }
  place _ := 0

namespace Token

/-- What is left of a token does not depend on its place. -/
theorem revise_blank_congr {token token' : Token} (h : token'.kind = token.kind) :
    token.revise .blank = token'.revise .blank := by
  simp only [revise, h, Revision.blank]

/-- Nothing is left of the difference between two places. -/
theorem Moved.revise_blank {size size' : Nat} {token token' : Token}
    (h : Moved size size' token token') : token.revise .blank = token'.revise .blank :=
  revise_blank_congr h.1

/-- Nothing is left of the difference between the tokens. -/
theorem Exchanged.map_revise_blank {token token' : Token} {size size' : Nat}
    {tokens tokens' : List Token} (h : Exchanged token token' size size' tokens tokens')
    (htoken : token.revise .blank = token'.revise .blank) :
    tokens.map (revise .blank) = tokens'.map (revise .blank) := by
  obtain ⟨before, after, after', rfl, rfl, hafter⟩ := h
  have hbehind : after.map (revise .blank) = after'.map (revise .blank) := by
    rw [← List.forall₂_eq_eq_eq, List.forall₂_map_left_iff, List.forall₂_map_right_iff]
    exact hafter.imp fun _ _ => Moved.revise_blank
  simp only [List.map_append, List.map_cons, htoken, hbehind]

/-- With the text of the test value left out, the token of a variable does not depend on it. -/
theorem ofVariable_revise_blank (embedded : Bool) (expression : String) (quoted : Bool)
    (value value' : String) (offset : Nat) :
    (ofVariable embedded expression quoted value offset).revise .blank =
      (ofVariable embedded expression quoted value' offset).revise .blank := by
  cases embedded <;> rfl

end Token

namespace Template

/-- Tokens of which the same is left make trees of which the same is left. -/
theorem agree_ofTokens {tokens tokens' : List Token}
    (h : tokens.map (Token.revise .blank) = tokens'.map (Token.revise .blank))
    (nullDisallowed : Bool) :
    Agree ParseError.kind (fun t t' : Template => t.revise .blank = t'.revise .blank)
      (ofTokens nullDisallowed tokens) (ofTokens nullDisallowed tokens') := by
  -- The parser looks at no offset and at no test value: blanking them commutes with it.
  have hrevise := ofTokens_revise .blank nullDisallowed tokens
  rw [h, ofTokens_revise .blank nullDisallowed tokens'] at hrevise
  cases htokens : ofTokens nullDisallowed tokens with
  | ok t =>
    cases htokens' : ofTokens nullDisallowed tokens' with
    | ok t' =>
      rw [htokens, htokens'] at hrevise
      exact .ok (Except.ok.inj hrevise).symm
    | error e' => simp [htokens, htokens', ParseError.reviseOutcome, Except.map, Except.mapError]
        at hrevise
  | error e =>
    cases htokens' : ofTokens nullDisallowed tokens' with
    | ok t' => simp [htokens, htokens', ParseError.reviseOutcome, Except.map, Except.mapError]
        at hrevise
    | error e' =>
      rw [htokens, htokens'] at hrevise
      have hkind := congrArg ParseError.kind (Except.error.inj hrevise)
      rw [ParseError.kind_revise, ParseError.kind_revise] at hkind
      exact .error hkind.symm

/-- A walk does not look at what is left out. -/
theorem evaluate_revise_blank (t : Template) (d : Dialect) (rootAlias : String)
    (parameters : Parameters) :
    (t.revise .blank).evaluate d rootAlias parameters = t.evaluate d rootAlias parameters := by
  have hvariable : Revision.Relaxes .blank (fun _ => False) d d :=
    ⟨rfl, fun _ => rfl, fun _ _ => .refl _, fun _ _ => .refl _⟩
  have hexpand : ∀ room, (expansion d room).Relaxes .blank (fun _ => False) (expansion d room) := by
    intro room v s text b
    cases room <;> exact .refl _
  exact (relaxes_evaluate hvariable (hexpand maxDepth) t rootAlias parameters).eq
    fun _ hfalse => hfalse.elim

end Template

/-! ## The text -/

/-- A variable with its test value. -/
def Token.variableText (embedded : Bool) (expression value : String) : String :=
  "/*" ++ (if embedded then "$" else "") ++ expression ++ "*/" ++ value

/-- A variable is its comment with its test value behind it. -/
theorem Token.toList_variableText (embedded : Bool) (expression value : String) :
    (variableText embedded expression value).toList =
      variableComment embedded expression ++ value.toList := by
  cases embedded <;> simp [variableText, variableComment, comment]

/-- The size of a text is that of its characters. -/
theorem Text.utf8Size_toList (s : String) : utf8Size s.toList = s.utf8ByteSize := by
  rw [utf8Size_eq_utf8Len, String.utf8Len_toList]

namespace Session

variable {before after expression value value' : String} {embedded quoted : Bool}

/-- A variable may stand with any test value of one form, as long as what comes behind it ends a
word: where reading the text comes upon the variable, the tokens with another test value of this
form are the same, but for this test value and the places behind it, or both texts have a fault of
one kind; and rendering both texts comes to the same, or to faults of one kind. -/
theorem rendered_testValue (hvalue : TestValue.OfForm quoted value.toList)
    (hvalue' : TestValue.OfForm quoted value'.toList) (hafter : TestValue.endsWord after.toList)
    {test : TestValue}
    (hreads : Token.Reads 0 (before ++ Token.variableText embedded expression value ++ after).toList
      ⟨Piece.variableKind embedded expression test, before.utf8ByteSize⟩) :
    let text := before ++ Token.variableText embedded expression value ++ after
    let text' := before ++ Token.variableText embedded expression value' ++ after
    Agree ParseError.kind
        (Token.Exchanged (Token.ofVariable embedded expression quoted value before.utf8ByteSize)
          (Token.ofVariable embedded expression quoted value' before.utf8ByteSize)
          value.utf8ByteSize value'.utf8ByteSize)
        (Token.ofText text) (Token.ofText text') ∧
      ∀ config calls calls' parameters, Agree RenderError.kind Eq
        (rendered config calls text parameters) (rendered config calls' text' parameters) := by
  intro text text'
  have htext : ∀ value : String,
      (before ++ Token.variableText embedded expression value ++ after).toList = before.toList ++
        (Token.variableComment embedded expression ++ (value.toList ++ after.toList)) := by
    intro value
    rw [String.toList_append, String.toList_append, Token.toList_variableText, List.append_assoc,
      List.append_assoc]
  -- The scans agree, and so do the tokens, the trees and, all test values blanked, the statements.
  have hscan := Token.agree_scan hvalue hvalue' hafter hreads (htext value)
    (by rw [Text.utf8Size_toList, Nat.zero_add])
  rw [← htext value'] at hscan
  simp only [String.ofList_toList, Text.utf8Size_toList] at hscan
  have htokens : Agree ParseError.kind
      (Token.Exchanged (Token.ofVariable embedded expression quoted value before.utf8ByteSize)
        (Token.ofVariable embedded expression quoted value' before.utf8ByteSize)
        value.utf8ByteSize value'.utf8ByteSize) (Token.ofText text) (Token.ofText text') := by
    refine hscan.map fun {scanned scanned'} h => ?_
    obtain ⟨sql, tokens⟩ := scanned
    obtain ⟨sql', tokens'⟩ := scanned'
    obtain ⟨hsql, hexchanged⟩ := h
    obtain rfl : sql = sql' := hsql
    exact hexchanged.append_left _
  refine ⟨htokens, fun config calls calls' parameters => ?_⟩
  rw [rendered_eq, rendered_eq]
  let same (t t' : Template) : Prop := t.revise .blank = t'.revise .blank
  have hparse : Agree ParseError.kind same (Template.parse (config.nullPolicy == .reject) text)
      (Template.parse (config.nullPolicy == .reject) text') :=
    htokens.bind fun h => Template.agree_ofTokens
      (h.map_revise_blank (Token.ofVariable_revise_blank ..)) _
  have hrender : Agree RenderError.kind same
      ((Template.parse (config.nullPolicy == .reject) text).mapError RenderError.parse)
      ((Template.parse (config.nullPolicy == .reject) text').mapError RenderError.parse) :=
    hparse.mapError fun _ => rfl
  refine hrender.bind fun {t t'} h => ?_
  rw [← t.evaluate_revise_blank, h, t'.evaluate_revise_blank]
  exact .refl (fun _ => rfl) _

/-- Two names in quotes, behind a string and a comment with a quote of its own. -/
theorem rendered_testValue_names :
    let before := "select '--' /* it's */ from t where a = "
    let text (value : String) := before ++ Token.variableText false "a" value ++ ", b"
    Token.Reads 0 (text "'Joe'").toList ⟨.bind "a" ⟨"'Joe'", true, false⟩, before.utf8ByteSize⟩ ∧
      ∀ config calls calls' parameters, Agree RenderError.kind Eq
        (rendered config calls (text "'Joe'") parameters)
        (rendered config calls' (text "'O''Neil'") parameters) := by
  intro before text
  have htokens : Token.ofText (text "'Joe'") = .ok [⟨.sql before, 0⟩,
      ⟨.bind "a" ⟨"'Joe'", true, false⟩, before.utf8ByteSize⟩, ⟨.sql ", b", 50⟩] := by
    decide +kernel
  have hreads : Token.Reads 0 (text "'Joe'").toList
      ⟨.bind "a" ⟨"'Joe'", true, false⟩, before.utf8ByteSize⟩ :=
    (Token.reads_iff_mem_ofText htokens).2 ⟨by simp, rfl⟩
  have hname : TestValue.OfForm true "'Joe'".toList := .string "Joe".toList
  have hname' : TestValue.OfForm true "'O''Neil'".toList := .string "O'Neil".toList
  exact ⟨hreads, (rendered_testValue hname hname' (by decide) hreads).2⟩

end Session

end SqlTemplate
