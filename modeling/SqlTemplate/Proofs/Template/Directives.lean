import SqlTemplate.Proofs.Template.Reading
import SqlTemplate.Proofs.Template.Revision

/-!
# What reading comes upon

A text that cannot be read to its end has no tokens, but its reading comes upon the directives
before the fault. `Token.Reads` says so of a directive, and `Token.reads_iff_mem_ofText` that these
are the tokens where there are tokens. Reading from another offset on comes upon the same, at other
places (`Token.scan_move`).
-/

namespace SqlTemplate

namespace Token

/-- Reading the text from an offset on comes upon a directive, whether or not the text can be read
to its end. -/
inductive Reads : Nat → List Char → Token → Prop
  /-- The text begins with it. -/
  | here {offset : Nat} {cs source rest : List Char} {kind : TokenKind}
      (h : Piece.first cs = .stretch (some kind) source rest) : Reads offset cs ⟨kind, offset⟩
  /-- It comes behind what the text begins with. -/
  | behind {offset : Nat} {cs source rest : List Char} {directive : Option TokenKind}
      {token : Token} (h : Piece.first cs = .stretch directive source rest)
      (hrest : Reads (offset + Text.utf8Size source) rest token) : Reads offset cs token

variable {offset : Nat} {cs : List Char} {token : Token}

/-- A token that is read from an offset on does not stand before it. -/
theorem Reads.le_offset (h : Reads offset cs token) : offset ≤ token.offset := by
  induction h with
  | here => exact le_refl _
  | behind _ _ ih => omega

/-- Reading comes upon the directive that a text begins with, and upon those behind. -/
theorem reads_iff_of_first {source rest : List Char} {directive : Option TokenKind}
    (h : Piece.first cs = .stretch directive source rest) :
    Reads offset cs token ↔
      (∃ kind, directive = some kind ∧ token = ⟨kind, offset⟩) ∨
        Reads (offset + Text.utf8Size source) rest token := by
  constructor
  · intro hreads
    cases hreads with
    | here h' =>
      obtain ⟨rfl, -, -⟩ := Piece.stretch.inj (h.symm.trans h')
      exact .inl ⟨_, rfl, rfl⟩
    | behind h' hrest =>
      obtain ⟨-, rfl, rfl⟩ := Piece.stretch.inj (h.symm.trans h')
      exact .inr hrest
  · rintro (⟨kind, rfl, rfl⟩ | hrest)
    · exact .here h
    · exact .behind h hrest

/-- A directive is none of the plain SQL before it. -/
theorem mem_of_mem_plainSql_append {sql : List Char} {tokens : List Token}
    (h : token ∈ plainSql offset sql ++ tokens) (hsql : token.kind.isSql = false) :
    token ∈ tokens := by
  rcases List.mem_append.1 h with h | h
  · unfold plainSql at h
    split_ifs at h
    · exact absurd h List.not_mem_nil
    · obtain rfl := List.mem_singleton.1 h
      exact absurd hsql (Bool.false_ne_true ∘ Eq.symm)
  · exact h

/-- Of a text that can be read to its end, reading comes upon the directives among its tokens. -/
theorem reads_iff_mem {scanned : Scanned} (h : scan offset cs = .ok scanned) :
    Reads offset cs token ↔ token ∈ scanned.2 ∧ token.kind.isSql = false := by
  induction cs using Piece.induction_on generalizing offset scanned with
  | _ cs ih =>
    rw [scan_eq] at h
    cases hfirst : Piece.first cs with
    | nothing =>
      rw [hfirst] at h
      obtain rfl := Except.ok.inj h
      refine ⟨fun hreads => ?_, fun hmem => absurd hmem.1 List.not_mem_nil⟩
      cases hreads with
      | here h' | behind h' => simp [hfirst] at h'
    | unclosed | unbalanced => simp [hfirst, scanPiece] at h
    | stretch directive source rest =>
      rw [hfirst] at h
      obtain ⟨inner, hinner, rfl⟩ := Outcome.map_eq_ok.1 h
      rw [reads_iff_of_first hfirst, ih directive source rest hfirst hinner]
      cases directive with
      | none => simp [Scanned.afterStretch, Scanned.afterSql]
      | some kind =>
        -- The directive is the first token, and the others are those of the rest.
        obtain ⟨-, hsql, -⟩ := Piece.spells_of_first hfirst
        constructor
        · rintro (⟨_, heq, rfl⟩ | ⟨hmem, hkind⟩)
          · obtain rfl := Option.some.inj heq
            exact ⟨List.mem_cons_self, hsql⟩
          · exact ⟨List.mem_cons_of_mem _ (List.mem_append_right _ hmem), hkind⟩
        · rintro ⟨hmem, hkind⟩
          rcases List.mem_cons.1 hmem with rfl | hmem
          · exact .inl ⟨kind, rfl, rfl⟩
          · exact .inr ⟨mem_of_mem_plainSql_append hmem hkind, hkind⟩

/-- Reading a text to its end comes upon the tokens that are no plain SQL. -/
theorem reads_iff_mem_ofText {text : String} {tokens : List Token}
    (h : ofText text = .ok tokens) :
    Reads 0 text.toList token ↔ token ∈ tokens ∧ token.kind.isSql = false := by
  obtain ⟨scanned, hscan, rfl⟩ := Outcome.map_eq_ok.1 h
  rw [reads_iff_mem hscan]
  exact ⟨fun h => ⟨List.mem_append_right _ h.1, h.2⟩,
    fun h => ⟨mem_of_mem_plainSql_append h.1 h.2, h.2⟩⟩

/-- What has been read of a text, with all places changed. -/
def Scanned.move (place : Nat → Nat) (scanned : Scanned) : Scanned :=
  (scanned.1, scanned.2.map (Token.revise { place }))

/-- A stretch that is moved, with what follows it, is moved as a whole. -/
theorem Scanned.move_afterStretch (place : Nat → Nat) (directive : Option TokenKind)
    (source : List Char) (offset next : Nat) (scanned : Scanned) :
    (scanned.move place).afterStretch directive source (place offset) (place next) =
      (scanned.afterStretch directive source offset next).move place := by
  cases directive with
  | none => rfl
  | some kind =>
    have hkind : Token.revise { place } ⟨kind, offset⟩ = ⟨kind, place offset⟩ := by
      cases kind <;> rfl
    have hplain : ∀ sql, (plainSql next sql).map (Token.revise { place }) =
        plainSql (place next) sql := by
      intro sql
      unfold plainSql
      split_ifs <;> rfl
    simp only [Scanned.afterStretch, Scanned.afterDirective, Scanned.move, List.map_append,
      List.map_cons, hkind, hplain]

/-- Reading from another offset on moves all places behind it. -/
theorem scan_move {place : Nat → Nat} (hplace : ∀ k, place (offset + k) = place offset + k) :
    scan (place offset) cs =
      ParseError.reviseOutcome { place } (Scanned.move place) (scan offset cs) := by
  induction cs using Piece.induction_on generalizing offset with
  | _ cs ih =>
    rw [scan_eq, scan_eq offset]
    cases hfirst : Piece.first cs with
    | nothing => rfl
    | unclosed => rfl
    | unbalanced source =>
      rw [scanPiece, ← hplace]
      rfl
    | stretch directive source rest =>
      -- The offset moves on by the size of the piece, and so does its image.
      have hrest := @ih directive source rest hfirst (offset + Text.utf8Size source) fun k => by
        rw [Nat.add_assoc, hplace, hplace, Nat.add_assoc]
      rw [scanPiece, scanPiece, ← hplace, hrest]
      exact ParseError.reviseOutcome_map fun scanned =>
        scanned.move_afterStretch place directive source offset _

end Token

end SqlTemplate
