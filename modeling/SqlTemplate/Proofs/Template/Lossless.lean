import Mathlib.Data.List.Chain
import Mathlib.Data.String.Basic
import SqlTemplate.Engine
import SqlTemplate.Proofs.Template.Pieces

/-!
# The tokens of a template make up its text

Cutting a text into tokens loses nothing: `ofText_lossless` says that the offsets of the tokens cut
the text into pieces which, put together again, are the text, and each of which is what its token
stands for (`TokenKind.Spells`). A fault names the place of a comment that is not closed, or of a
list that stands for a variable and is not closed.

The pieces come from `Scans` by induction: `Covers` lays them out from an offset on, and the facts
about offsets are read off it. Which tokens may stand next to each other is `Adjoins`: plain SQL is
one token as far as it goes, so that a text without directives is a single token and is its own
statement.
-/

namespace SqlTemplate

namespace Text

/-- The pieces of a text between offsets: each runs from its offset to the next one, and the last
one to the end. -/
def piecesAt (text : String) : List Nat → List String
  | [] => []
  | [start] => [String.Pos.Raw.extract text ⟨start⟩ text.rawEndPos]
  | start :: next :: rest =>
    String.Pos.Raw.extract text ⟨start⟩ ⟨next⟩ :: piecesAt text (next :: rest)

/-- The size of characters is that of the text which they make up. -/
theorem utf8Size_eq_utf8Len (cs : List Char) : utf8Size cs = String.utf8Len cs := by
  induction cs with
  | nil => rfl
  | cons c cs ih => rw [utf8Size_cons, String.utf8Len_cons, ih, Nat.add_comm]

/-- A text that is not empty has a size. -/
theorem utf8Size_pos {cs : List Char} (h : cs ≠ []) : 0 < utf8Size cs := by
  have hlength := List.length_pos_iff.2 h
  have := length_le_utf8Size cs
  omega

variable {text : String} {before piece after : List Char}

/-- A piece lies between the size of what is before it and the size of both together. -/
theorem extract_eq (h : text.toList = before ++ piece ++ after) :
    String.Pos.Raw.extract text ⟨utf8Size before⟩ ⟨utf8Size before + utf8Size piece⟩ =
      String.ofList piece := by
  rw [← String.ofList_toList (s := text), h, utf8Size_eq_utf8Len, utf8Size_eq_utf8Len]
  exact String.extract_of_valid before piece after

/-- The last piece ends with the text. -/
theorem rawEndPos_eq (h : text.toList = before ++ piece) :
    text.rawEndPos = ⟨utf8Size before + utf8Size piece⟩ := by
  rw [← String.ofList_toList (s := text), h, String.rawEndPos_ofList, ← utf8Size_append,
    utf8Size_eq_utf8Len]

/-- What is before a piece ends between two characters. -/
theorem isValid_utf8Size (h : text.toList = before ++ after) :
    (⟨utf8Size before⟩ : String.Pos.Raw).IsValid text := by
  rw [String.Pos.Raw.isValid_iff_exists_append]
  refine ⟨String.ofList before, String.ofList after, ?_, ?_⟩
  · rw [← String.ofList_append, ← h, String.ofList_toList]
  · rw [String.rawEndPos_ofList, utf8Size_eq_utf8Len]

end Text

namespace Token

/-! ## What has been read, laid out from an offset on -/

/-- The tokens start where the pieces of a text do, and each stands for its piece. -/
inductive Covers : Nat → List (List Char) → List Token → Prop
  /-- There is nothing to cover. -/
  | nil (offset : Nat) : Covers offset [] []
  /-- A first piece, which is not empty. -/
  | cons {offset : Nat} {piece : List Char} {pieces : List (List Char)} {kind : TokenKind}
      {tokens : List Token} (hpiece : piece ≠ []) (hspells : kind.Spells piece)
      (hrest : Covers (offset + Text.utf8Size piece) pieces tokens) :
      Covers offset (piece :: pieces) (⟨kind, offset⟩ :: tokens)

/-- A stretch of plain SQL, if there is one, goes before the other pieces. -/
theorem Covers.exists_plainSql {offset : Nat} {sql : List Char} {pieces : List (List Char)}
    {tokens : List Token} (h : Covers (offset + Text.utf8Size sql) pieces tokens) :
    ∃ all, sql ++ pieces.flatten = all.flatten ∧
      Covers offset all (plainSql offset sql ++ tokens) := by
  by_cases hsql : sql = []
  · subst hsql
    exact ⟨pieces, rfl, h⟩
  · refine ⟨sql :: pieces, rfl, ?_⟩
    rw [plainSql, if_neg (by rwa [List.isEmpty_iff])]
    exact .cons hsql String.toList_ofList.symm h

variable {offset : Nat} {cs : List Char} {outcome : Except ParseError Scanned} {scanned : Scanned}

/-- What has been read covers the text. -/
theorem Scans.exists_covers (h : Scans offset cs outcome) (hok : outcome = .ok scanned) :
    ∃ pieces, cs = scanned.1 ++ pieces.flatten ∧
      Covers (offset + Text.utf8Size scanned.1) pieces scanned.2 := by
  induction h generalizing scanned with
  | nil offset =>
    obtain rfl := Except.ok.inj hok
    exact ⟨[], rfl, .nil _⟩
  | @sql offset source rest outcome hsource _ ih =>
    obtain ⟨inner, hinner, rfl⟩ := Outcome.map_eq_ok.1 hok
    obtain ⟨pieces, hrest, hcovers⟩ := ih hinner
    refine ⟨pieces, ?_, ?_⟩
    · rw [hrest, ← List.append_assoc]
      rfl
    · rwa [Scanned.afterSql, Text.utf8Size_append, ← Nat.add_assoc]
  | @directive offset source rest outcome kind hspells hsql _ _ ih =>
    obtain ⟨inner, hinner, rfl⟩ := Outcome.map_eq_ok.1 hok
    obtain ⟨pieces, hrest, hcovers⟩ := ih hinner
    -- Plain SQL becomes a piece when a directive, or the start of the text, is found before it.
    obtain ⟨all, hall, hcovers⟩ := hcovers.exists_plainSql
    obtain ⟨c, more, rfl, -⟩ := hspells.exists_eq_cons hsql
    refine ⟨(c :: more) :: all, ?_, .cons (List.cons_ne_nil _ _) hspells hcovers⟩
    rw [hrest, hall]
    rfl
  | unclosed | unbalanced => simp at hok

/-! ## Which tokens stand next to each other -/

/-- What may stand next to each other: plain SQL next to no plain SQL, and the line that separates
two parts before plain SQL only. -/
def Adjoins (a b : Token) : Prop :=
  (a.kind.isSql = true → b.kind.isSql = false) ∧ (a.kind.isOtherwise = true → b.kind.isSql = true)

/-- Behind the end of a line comes plain SQL, or nothing. -/
theorem Scans.eq_nil_of_line (h : Scans offset cs outcome) (hok : outcome = .ok scanned)
    (hline : ∀ c ∈ cs.head?, c = '\n') (hsql : scanned.1 = []) : scanned.2 = [] := by
  cases h with
  | nil offset =>
    obtain rfl := Except.ok.inj hok
    rfl
  | sql hsource =>
    obtain ⟨inner, -, rfl⟩ := Outcome.map_eq_ok.1 hok
    exact absurd (List.append_eq_nil_iff.1 hsql).1 hsource
  | directive hspells hkind =>
    obtain ⟨c, more, rfl, hc⟩ := hspells.exists_eq_cons hkind
    exact absurd (hline c rfl) hc
  | unclosed | unbalanced => simp at hok

/-- Plain SQL, if there is any, adjoins a directive. -/
theorem isChain_plainSql_append {sql : List Char} {tokens : List Token}
    (hchain : tokens.IsChain Adjoins) (hhead : ∀ token ∈ tokens.head?, token.kind.isSql = false) :
    (plainSql offset sql ++ tokens).IsChain Adjoins := by
  unfold plainSql
  split_ifs
  · exact hchain
  · refine hchain.cons fun token htoken => ⟨fun _ => hhead token htoken, fun h => ?_⟩
    exact absurd h Bool.false_ne_true

/-- What has been read adjoins, and behind the plain SQL it begins with a directive. -/
theorem Scans.isChain_adjoins (h : Scans offset cs outcome) (hok : outcome = .ok scanned) :
    scanned.2.IsChain Adjoins ∧ ∀ token ∈ scanned.2.head?, token.kind.isSql = false := by
  induction h generalizing scanned with
  | nil offset =>
    obtain rfl := Except.ok.inj hok
    exact ⟨.nil, fun token htoken => by simp at htoken⟩
  | sql _ _ ih =>
    obtain ⟨inner, hinner, rfl⟩ := Outcome.map_eq_ok.1 hok
    have hadjoins := ih hinner
    exact hadjoins
  | @directive offset source rest outcome kind _ hsql hline hrest ih =>
    obtain ⟨inner, hinner, rfl⟩ := Outcome.map_eq_ok.1 hok
    obtain ⟨hchain, hhead⟩ := ih hinner
    refine ⟨(isChain_plainSql_append hchain hhead).cons ?_, ?_⟩
    · intro token htoken
      refine ⟨fun h => absurd (h.symm.trans hsql) Bool.false_ne_true.symm, fun h => ?_⟩
      -- The next token is the plain SQL that starts with the end of the line.
      cases hinnerSql : inner.1 with
      | nil =>
        have hnil := hrest.eq_nil_of_line hinner (hline h) hinnerSql
        rw [hinnerSql, hnil] at htoken
        simp [plainSql] at htoken
      | cons c more =>
        rw [hinnerSql] at htoken
        obtain rfl := Option.some.inj htoken
        rfl
    · intro token htoken
      obtain rfl := Option.some.inj htoken
      exact hsql
  | unclosed | unbalanced => simp at hok

/-! ## The tokens of a whole text -/

variable {text : String} {tokens : List Token}

/-- The tokens of a text cover it. -/
theorem exists_covers_of_ofText (h : ofText text = .ok tokens) :
    ∃ pieces, text.toList = pieces.flatten ∧ Covers 0 pieces tokens := by
  obtain ⟨scanned, hscan, rfl⟩ := Outcome.map_eq_ok.1 h
  obtain ⟨pieces, htext, hcovers⟩ := (scans_scan 0 text.toList).exists_covers hscan
  obtain ⟨all, hall, hcovers⟩ := hcovers.exists_plainSql
  exact ⟨all, htext.trans hall, hcovers⟩

/-- The tokens of a text adjoin each other. -/
theorem isChain_adjoins_of_ofText (h : ofText text = .ok tokens) : tokens.IsChain Adjoins := by
  obtain ⟨scanned, hscan, rfl⟩ := Outcome.map_eq_ok.1 h
  obtain ⟨hchain, hhead⟩ := (scans_scan 0 text.toList).isChain_adjoins hscan
  exact isChain_plainSql_append hchain hhead

namespace Covers

variable {pieces : List (List Char)}

/-- Each token stands for its piece. -/
theorem spells (h : Covers offset pieces tokens) :
    List.Forall₂ (fun token piece => token.kind.Spells piece) tokens pieces := by
  induction h with
  | nil => exact .nil
  | cons _ hspells _ ih => exact .cons hspells ih

/-- No token is plain SQL without a text. -/
theorem ne_empty (h : Covers offset pieces tokens) : ∀ token ∈ tokens, token.kind ≠ .sql "" := by
  induction h with
  | nil => simp
  | cons hpiece hspells _ ih =>
    refine List.forall_mem_cons.2 ⟨fun hkind => ?_, ih⟩
    dsimp only at hkind
    subst hkind
    exact hpiece hspells

/-- The first token starts at the offset, and each one behind the one before it. -/
theorem sorted (h : Covers offset pieces tokens) :
    (∀ token ∈ tokens, offset ≤ token.offset) ∧ (tokens.map Token.offset).Pairwise (· < ·) := by
  induction h with
  | nil => simp
  | @cons offset piece _ _ tokens hpiece _ _ ih =>
    obtain ⟨hle, hsorted⟩ := ih
    -- A piece is not empty, so the next offset is greater.
    have hpos := Text.utf8Size_pos hpiece
    refine ⟨List.forall_mem_cons.2 ⟨le_refl _, ?_⟩, List.pairwise_cons.2 ⟨?_, hsorted⟩⟩
    · intro token htoken
      have hnext := hle token htoken
      exact Nat.le_of_add_right_le hnext
    · intro next hnext
      obtain ⟨token, htoken, rfl⟩ := List.mem_map.1 hnext
      have hnext := hle token htoken
      show offset < token.offset
      omega

/-- Each token starts between two characters. -/
theorem isValid (h : Covers offset pieces tokens) {before : List Char}
    (htext : text.toList = before ++ pieces.flatten) (hoffset : offset = Text.utf8Size before) :
    ∀ token ∈ tokens, (⟨token.offset⟩ : String.Pos.Raw).IsValid text := by
  induction h generalizing before with
  | nil => simp
  | @cons offset piece pieces _ _ _ _ _ ih =>
    subst hoffset
    have hnext : text.toList = (before ++ piece) ++ pieces.flatten := by
      rw [htext, List.flatten_cons, List.append_assoc]
    have hrest := ih hnext (Text.utf8Size_append ..).symm
    exact List.forall_mem_cons.2 ⟨Text.isValid_utf8Size htext, hrest⟩

/-- The offsets cut the text into the pieces. -/
theorem piecesAt_eq (h : Covers offset pieces tokens) {before : List Char}
    (htext : text.toList = before ++ pieces.flatten) (hoffset : offset = Text.utf8Size before) :
    Text.piecesAt text (tokens.map Token.offset) = pieces.map String.ofList := by
  induction h generalizing before with
  | nil => rfl
  | @cons offset piece pieces kind tokens _ _ hrest ih =>
    subst hoffset
    have hnext : text.toList = (before ++ piece) ++ pieces.flatten := by
      rw [htext, List.flatten_cons, List.append_assoc]
    have hrec := ih hnext (Text.utf8Size_append ..).symm
    -- Where the piece ends is the offset of the next token, or else the end of the text.
    cases hrest with
    | nil =>
      rw [List.flatten_nil, List.append_nil] at hnext
      have hlast : text.toList = (before ++ piece) ++ [] := by rw [hnext, List.append_nil]
      show [String.Pos.Raw.extract text _ text.rawEndPos] = _
      rw [Text.rawEndPos_eq hnext, Text.extract_eq hlast]
      rfl
    | cons =>
      rw [List.map_cons, List.map_cons, List.map_cons, ← hrec, ← Text.extract_eq hnext]
      rfl

end Covers

end Token

/-! ## Faults -/

namespace ParseError

/-- The fault of a text names the place of a comment that is not closed, or that of the parenthesis
right behind a variable. -/
def PointsInto (cs : List Char) (start : Nat) : ParseError → Prop
  | unclosedDirective offset =>
    ∃ before after, cs = before ++ '/' :: '*' :: after ∧ offset = start + Text.utf8Size before
  | unbalancedTestValue offset =>
    ∃ before source after, cs = before ++ source ++ '(' :: after ∧ Token.IsReference source ∧
      offset = start + Text.utf8Size (before ++ source)
  | _ => False

/-- A place in the rest of a text is a place in the text. -/
theorem PointsInto.after {e : ParseError} {offset : Nat} {source rest : List Char}
    (h : e.PointsInto rest (offset + Text.utf8Size source)) :
    e.PointsInto (source ++ rest) offset := by
  cases e with
  | unclosedDirective =>
    obtain ⟨before, after, rfl, rfl⟩ := h
    refine ⟨source ++ before, after, by simp, ?_⟩
    rw [Text.utf8Size_append, Nat.add_assoc]
  | unbalancedTestValue =>
    obtain ⟨before, directive, after, rfl, hdirective, rfl⟩ := h
    refine ⟨source ++ before, directive, after, by simp, hdirective, ?_⟩
    rw [List.append_assoc, Text.utf8Size_append source, Nat.add_assoc]
  | unmatched | invalidExpression | outsideLoop => exact h

end ParseError

/-- A fault is found where it is. -/
theorem Token.Scans.pointsInto {offset : Nat} {cs : List Char}
    {outcome : Except ParseError Token.Scanned} {e : ParseError} (h : Scans offset cs outcome)
    (herror : outcome = .error e) : e.PointsInto cs offset := by
  induction h with
  | nil => simp at herror
  | @sql _ _ _ outcome _ _ ih | @directive _ _ _ outcome _ _ _ _ _ ih =>
    cases outcome with
    | ok => simp [Except.map] at herror
    | error =>
      obtain rfl := Except.error.inj herror
      -- A fault in the rest points behind the piece.
      exact (ih rfl).after
  | unclosed offset rest =>
    obtain rfl := Except.error.inj herror
    exact ⟨[], rest, rfl, rfl⟩
  | @unbalanced offset source hsource rest =>
    obtain rfl := Except.error.inj herror
    exact ⟨[], source, rest, rfl, hsource, rfl⟩

/-! ## The whole text -/

namespace Token

variable {text : String} {tokens : List Token}

/-- The tokens are the text, cut where they start. -/
structure Lossless (text : String) (tokens : List Token) : Prop where
  /-- A text that is not empty is cut at its start. -/
  head : text ≠ "" → (tokens.map Token.offset).head? = some 0
  /-- Each cut is behind the one before it. -/
  sorted : (tokens.map Token.offset).Pairwise (· < ·)
  /-- Each cut is between two characters. -/
  boundary : ∀ token ∈ tokens, (⟨token.offset⟩ : String.Pos.Raw).IsValid text
  /-- The pieces are all of the text. -/
  whole : String.join (Text.piecesAt text (tokens.map Token.offset)) = text
  /-- Each token stands for its piece. -/
  pieces : List.Forall₂ (fun token piece => token.kind.Spells piece.toList) tokens
    (Text.piecesAt text (tokens.map Token.offset))
  /-- No token is plain SQL without a text. -/
  filled : ∀ token ∈ tokens, token.kind ≠ .sql ""
  /-- Plain SQL is not followed by plain SQL. -/
  apart : tokens.IsChain fun a b => a.kind.isSql = true → b.kind.isSql = false

/-- Tokens that cover a text and adjoin each other lose nothing of it. -/
theorem lossless_of_covers {pieces : List (List Char)} (htext : text.toList = pieces.flatten)
    (hcovers : Covers 0 pieces tokens) (hchain : tokens.IsChain Adjoins) :
    Lossless text tokens := by
  have hstart : text.toList = [] ++ pieces.flatten := htext
  have hpieces := hcovers.piecesAt_eq hstart rfl
  refine ⟨fun hne => ?_, hcovers.sorted.2, hcovers.isValid hstart rfl, ?_, ?_, hcovers.ne_empty,
    hchain.imp fun _ _ h => h.1⟩
  · cases hcovers with
    | nil => exact absurd (String.toList_inj.1 htext) hne
    | cons => rfl
  · rw [hpieces, String.join_eq, ← String.toList_inj, String.toList_ofList, List.map_map, htext]
    simp
  · rw [hpieces, List.forall₂_map_right_iff]
    simpa using hcovers.spells

/-- A text without directives has one token, or none if it is empty. -/
theorem eq_of_forall_isSql {pieces : List (List Char)} (htext : text.toList = pieces.flatten)
    (hcovers : Covers 0 pieces tokens) (hchain : tokens.IsChain Adjoins)
    (hsql : ∀ token ∈ tokens, token.kind.isSql = true) :
    (tokens = [] ∧ text = "") ∨ tokens = [⟨.sql text, 0⟩] := by
  match tokens, hcovers, hchain, hsql with
  | _, .nil _, _, _ => exact .inl ⟨rfl, String.toList_inj.1 htext⟩
  | _, @Covers.cons _ piece _ kind _ _ hspells (.nil _), _, hsql =>
    have hkind := hsql _ List.mem_cons_self
    cases kind with
    | sql source =>
      obtain rfl : piece = source.toList := hspells
      obtain rfl : text = source := String.toList_inj.1 (htext.trans (by simp))
      exact .inr rfl
    | _ => exact absurd hkind Bool.false_ne_true
  | _, .cons _ _ (.cons ..), .cons_cons hadjoins _, hsql =>
    have hnext := hadjoins.1 (hsql _ List.mem_cons_self)
    exact absurd (hsql _ (List.mem_cons_of_mem _ List.mem_cons_self)) (hnext ▸ Bool.false_ne_true)

end Token

/-- The tree of a text that can be cut into tokens is that of its tokens. -/
theorem Template.parse_eq_ofTokens {text : String} {tokens : List Token}
    (h : Token.ofText text = .ok tokens) (nullDisallowed : Bool) :
    parse nullDisallowed text = ofTokens nullDisallowed tokens := by
  rw [parse, h]
  rfl

/-- What a new engine makes of a text whose only token is its plain SQL. -/
theorem Engine.render_plain {config : Config} {text : String} {parameters : Parameters}
    {tokens : List Token} (h : Token.ofText text = .ok tokens)
    (htokens : (tokens = [] ∧ text = "") ∨ tokens = [⟨.sql text, 0⟩]) :
    (render { config } text parameters).1 = .ok ⟨text, []⟩ := by
  rcases htokens with ⟨rfl, rfl⟩ | rfl
  · rw [render, parse, cached?, List.find?_nil, parseAnew, Template.parse_eq_ofTokens h]
    rfl
  · rw [render, parse, cached?, List.find?_nil, parseAnew, Template.parse_eq_ofTokens h]
    show Except.ok (Statement.mk ("" ++ text) []) = _
    rw [String.empty_append]

/-- Cutting a text into tokens loses nothing, a text without directives is its own statement, and
the fault of a text that cannot be cut is found where it says. -/
theorem Token.ofText_lossless (text : String) :
    match Token.ofText text with
    | .ok tokens =>
      Token.Lossless text tokens ∧
        ((∀ token ∈ tokens, token.kind.isSql = true) → ∀ config parameters,
          (Engine.render { config } text parameters).1 = .ok ⟨text, []⟩)
    | .error e => e.PointsInto text.toList 0 := by
  cases h : Token.ofText text with
  | ok tokens =>
    obtain ⟨pieces, htext, hcovers⟩ := Token.exists_covers_of_ofText h
    have hchain := Token.isChain_adjoins_of_ofText h
    refine ⟨Token.lossless_of_covers htext hcovers hchain, fun hsql config parameters => ?_⟩
    exact Engine.render_plain h (Token.eq_of_forall_isSql htext hcovers hchain hsql)
  | error e =>
    unfold Token.ofText at h
    cases hscan : Token.scan 0 text.toList with
    | ok => simp [hscan, Except.map] at h
    | error fault =>
      rw [hscan] at h
      obtain rfl := Except.error.inj h
      exact (Token.scans_scan 0 text.toList).pointsInto hscan

end SqlTemplate
