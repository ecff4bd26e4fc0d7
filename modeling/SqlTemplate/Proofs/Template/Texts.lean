import SqlTemplate.Proofs.Template.Marks

/-!
# The texts of a tree come from its source

What a template writes by itself is its plain SQL and its connectors, `Node.texts`. Parsing invents
no character of them: they are the texts of the marks (`Node.texts_eq_filterMap`), each mark has its
text from the token that it stands for, and a token keeps characters of its piece of the source
only. So every character of such a text occurs in the source (`texts_subset_of_parse`).
-/

namespace SqlTemplate

mutual

/-- The plain SQL and the connectors of a part of a template, in the order of the text. -/
def Node.texts : Node → List String
  | .literal text | .connector text => [text]
  | .bind _ | .embedded _ => []
  | .branch _ _ yes no => textsOfAll yes ++ textsOfAll no
  | .scope children | .loop _ children | .first children | .last children => textsOfAll children

/-- The plain SQL and the connectors of parts of a template. -/
def Node.textsOfAll : List Node → List String
  | [] => []
  | node :: rest => node.texts ++ textsOfAll rest

end

/-- The plain SQL and the connectors of a template. -/
def Template.texts (t : Template) : List String :=
  Node.textsOfAll t.nodes

/-! ## From the tree to its marks -/

/-- The text of a mark, if it is plain SQL or a connector. -/
def Mark.text? : Mark → Option String
  | literal text _ | connector text => some text
  | _ => none

mutual

/-- The texts of a part of a template are those of its marks. -/
theorem Node.texts_eq_filterMap (inThen : Bool) :
    (node : Node) → node.texts = (node.marks inThen).filterMap Mark.text?
  | .literal _ | .bind _ | .embedded _ | .connector _ => rfl
  | .branch condition source yes no => by
    have hyes := textsOfAll_eq_filterMap true yes
    have hno := textsOfAll_eq_filterMap false no
    rw [Node.texts, Node.marks, hyes, hno]
    split_ifs with hempty
    · simp [List.isEmpty_iff.1 hempty, Node.marksOfAll, List.filterMap_cons, Mark.text?]
    · simp [List.filterMap_cons, Mark.text?]
  | .scope children | .loop _ children | .first children | .last children => by
    simp [Node.texts, Node.marks, List.filterMap_cons, Mark.text?,
      textsOfAll_eq_filterMap false children]

/-- So are the texts of its parts. -/
theorem Node.textsOfAll_eq_filterMap (inThen : Bool) :
    (nodes : List Node) → textsOfAll nodes = (marksOfAll inThen nodes).filterMap Mark.text?
  | [] => rfl
  | node :: rest => by
    rw [Node.textsOfAll, Node.marksOfAll, List.filterMap_append, node.texts_eq_filterMap inThen,
      textsOfAll_eq_filterMap inThen rest]

end

/-! ## From the marks to the source -/

/-- What a token keeps of the source for the statement: plain SQL, or the argument of a
connector. -/
def TokenKind.kept : TokenKind → List Char
  | .sql text | .otherwise text => text.toList
  | .connector argument => argument.toList
  | _ => []

namespace Text

/-- Taking blanks off the start adds no character. -/
theorem trimStart_subset (cs : List Char) : trimStart cs ⊆ cs :=
  (List.dropWhile_sublist _).subset

/-- Nor does taking them off both ends. -/
theorem trim_subset (cs : List Char) : trim cs ⊆ cs := by
  intro c hc
  rw [trim, trimEnd, List.mem_reverse] at hc
  exact trimStart_subset cs (List.mem_reverse.1 (trimStart_subset _ hc))

end Text

/-- A token keeps characters of its piece only. -/
theorem TokenKind.Spells.kept_subset {kind : TokenKind} {source : List Char}
    (h : kind.Spells source) : kind.kept ⊆ source := by
  cases kind with
  | sql =>
    obtain rfl := h
    exact List.Subset.refl _
  | otherwise =>
    obtain ⟨rfl, -⟩ := h
    exact List.Subset.refl _
  | connector argument =>
    obtain ⟨body, rfl, -, hargument⟩ := h
    -- What is kept of a connector is its argument, which is the body without its blanks.
    intro c hc
    rw [kept, hargument] at hc
    have hbody := Text.trim_subset body hc
    simp [comment, hbody]
  | _ => exact List.nil_subset _

/-- A mark has the characters of its text from its token. -/
theorem Mark.StandsFor.text_subset_kept {nullDisallowed : Bool} {mark : Mark} {kind : TokenKind}
    (h : mark.StandsFor nullDisallowed kind) {text : String} (htext : mark.text? = some text) :
    text.toList ⊆ kind.kept := by
  cases h with
  | sql | line =>
    obtain rfl := Option.some.inj htext
    exact List.Subset.refl _
  | @connector argument shown inner hquoted hsingle =>
    -- The quotes around the argument are left out, and of two quotes inside it one.
    obtain rfl := Option.some.inj htext
    have hargument : argument.toList = '\'' :: inner ++ ['\''] := hquoted
    rw [TokenKind.kept, hargument]
    intro c hc
    have hinner : c ∈ inner := hsingle.subset hc
    simp [hinner]
  | _ => simp [text?] at htext

/-- The texts of a tree are made of characters of its source. -/
theorem Template.texts_subset_of_parse {nullDisallowed : Bool} {source : String} {t : Template}
    (h : parse nullDisallowed source = .ok t) {text : String} (htext : text ∈ t.texts) :
    text.toList ⊆ source.toList := by
  obtain ⟨tokens, htokens, htree⟩ := Outcome.bind_eq_ok.1 h
  obtain ⟨pieces, hsource, hcovers⟩ := Token.exists_covers_of_ofText htokens
  rw [texts, Node.textsOfAll_eq_filterMap false] at htext
  obtain ⟨mark, hmark, htext⟩ := List.mem_filterMap.1 htext
  -- From the mark to its token, and from there to its piece.
  have hstands := forall₂_standsFor_of_ofTokens htree (Token.isChain_adjoins_of_ofText htokens)
  obtain ⟨token, htoken, hstands⟩ := Outcome.exists_of_forall₂ hstands hmark
  obtain ⟨piece, hpiece, hspells⟩ := Outcome.exists_of_forall₂ hcovers.spells htoken
  intro c hc
  rw [hsource]
  exact List.mem_flatten.2 ⟨piece, hpiece, hspells.kept_subset (hstands.text_subset_kept htext hc)⟩

end SqlTemplate
