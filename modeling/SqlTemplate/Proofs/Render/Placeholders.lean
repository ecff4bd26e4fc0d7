import SqlTemplate.Proofs.Render.Fitting
import SqlTemplate.Proofs.Template.Endings
import SqlTemplate.Proofs.Template.Texts

/-!
# A placeholder for each bind

The fragments of a template fit as long as each of its texts does. Not every text does: a separating
line that separates nothing ends in a line comment, and is followed by plain SQL with the end of the
line; and the last text of a template may end anywhere. So the fragments are followed along the
marks that are still to come: `Ready` says that they may be followed by them, and `Arranged` that
each text may be. `Node.ready_of_arranged` is that a part of a template that is arranged keeps
fragments ready.

The marks of a template are arranged if its tokens are closed before one another
(`arranged_of_forall₂`), which the reading of a text sees to.
-/

namespace SqlTemplate

/-! ## Marks -/

/-- The text of a mark, if it is a connector. -/
def Mark.connector? : Mark → Option String
  | connector text => some text
  | _ => none

/-- The mark of plain SQL. -/
def Mark.isLiteral : Mark → Bool
  | literal _ _ => true
  | _ => false

/-- The connectors of a template. -/
def Template.connectors (t : Template) : List String :=
  t.marks.filterMap Mark.connector?

/-! ## What is still to come -/

/-- A text that ends so may be followed by these marks. -/
def Awaits (s : Mode) : List Mark → Prop
  | [] => True
  | .literal text _ :: _ => s.isOutside = true ∨ s = .line ∧ text.toList.head? = some '\n'
  | _ :: _ => s.isOutside = true

/-- Each text holds no question mark and may be written where it stands, and no value is
embedded. -/
def Arranged : List Mark → Prop
  | [] => True
  | .literal text _ :: rest =>
    '?' ∉ text.toList ∧ Awaits (Mode.code.after text.toList) rest ∧ Arranged rest
  | .connector text :: rest =>
    '?' ∉ text.toList ∧ (Mode.code.after text.toList).isOutside = true ∧ Arranged rest
  | .embedded _ :: _ => False
  | _ :: rest => Arranged rest

/-- The fragments have a seam, or they may be followed by these marks and as many placeholders are
counted in them as they have binds. -/
def Ready (fragments : List Fragment) (rest : List Mark) : Prop :=
  Mode.code.HasSeam fragments ∨
    Awaits (Mode.code.after (Fragment.join fragments)) rest ∧
      Mode.code.counted (Fragment.join fragments) = Fragment.total fragments

variable {fragments : List Fragment} {before rest : List Mark}

/-- Outside strings and comments, anything may follow. -/
theorem awaits_of_isOutside {s : Mode} (h : s.isOutside = true) (rest : List Mark) :
    Awaits s rest := by
  unfold Awaits
  split
  · exact trivial
  · exact .inl h
  · exact h

namespace Arranged

/-- What comes later is arranged, too. -/
theorem of_append (h : Arranged (before ++ rest)) : Arranged rest := by
  induction before with
  | nil => exact h
  | cons mark before ih =>
    cases mark with
    | literal | connector => exact ih h.2.2
    | embedded => exact absurd h not_false
    | _ => exact ih h

/-- So is what is inside a block, with the end of the block behind it. -/
theorem inside {kind : BlockKind} (h : Arranged (.opening kind :: before ++ [.close] ++ rest)) :
    Arranged (before ++ .close :: rest) := by
  rwa [List.append_assoc] at h

/-- Behind the first part of a conditional block comes its end or a second part. -/
theorem parts {kind : BlockKind} {no : List Node}
    (h : Arranged (.opening kind :: before ++
      (if no.isEmpty then [] else .otherwise :: Node.marksOfAll false no) ++ [.close] ++ rest)) :
    (∃ mark behind, mark.isLiteral = false ∧ Arranged (before ++ mark :: behind)) ∧
    Arranged (Node.marksOfAll false no ++ .close :: rest) := by
  split_ifs at h with hempty
  · rw [List.append_nil] at h
    refine ⟨⟨.close, rest, rfl, h.inside⟩, ?_⟩
    rw [List.isEmpty_iff.1 hempty]
    exact h.inside.of_append
  · have hparts : Arranged
        (before ++ .otherwise :: (Node.marksOfAll false no ++ .close :: rest)) := by
      simp only [List.cons_append, List.append_assoc, List.nil_append] at h
      exact h
    exact ⟨⟨.otherwise, _, rfl, hparts⟩, hparts.of_append⟩

end Arranged

/-- What fits may be followed by anything. -/
theorem Fits.ready (h : Fits fragments) (rest : List Mark) : Ready fragments rest :=
  h.imp_right fun h => ⟨awaits_of_isOutside h.1 rest, h.2⟩

namespace Ready

/-- Before anything is written, anything may follow. -/
theorem nil : Ready [] rest :=
  Fits.nil.ready rest

/-- Before anything but plain SQL, the fragments fit. -/
theorem fits {mark : Mark} (h : Ready fragments (mark :: rest))
    (hmark : mark.isLiteral = false) : Fits fragments := by
  cases mark with
  | literal => exact absurd hmark Bool.false_ne_true.symm
  | _ => exact h

/-- So it is with those that have been written since the start. -/
theorem fits_of_nil {mark : Mark} (h : Ready ([] ++ fragments) (mark :: rest))
    (hmark : mark.isLiteral = false) : Fits fragments :=
  h.fits hmark

/-- Plain SQL is written where it is awaited. -/
theorem append_literal {text : String} {inThen : Bool}
    (h : Ready fragments (.literal text inThen :: rest))
    (harranged : Arranged (.literal text inThen :: rest)) :
    Ready (fragments ++ [.plain text]) rest := by
  obtain ⟨hquestion, hawaits, -⟩ := harranged
  rw [Ready, Mode.hasSeam_append, Fragment.join_append, Fragment.total_append]
  rcases h with hseam | ⟨hends, hcounted⟩
  · exact .inl (.inl hseam)
  by_cases hopens : (Mode.code.after (Fragment.join fragments)).Opens text.toList
  · exact .inl (.inr (.inl hopens))
  -- No mark is split between the two texts, so their modes and counts add up.
  have hjoins : (Mode.code.after (Fragment.join fragments)).Joins text.toList := by
    rcases hends with houtside | ⟨hline, hnewline⟩
    · exact Mode.joins_of_not_opens houtside hopens
    · -- The end of the line ends the comment, and outside it changes nothing.
      intro c hc
      obtain rfl := Option.some.inj (hnewline.symm.trans hc)
      rw [hline]
      rfl
  have htext : Fragment.join [.plain text] = text.toList := List.append_nil _
  refine .inr ⟨?_, ?_⟩
  · rw [Mode.after_append, htext]
    by_cases hempty : text.toList = []
    · rcases hends with houtside | ⟨-, hnewline⟩
      · rw [hempty]
        exact awaits_of_isOutside houtside rest
      · simp [hempty] at hnewline
    · rwa [hjoins.after_eq hempty]
  · rw [Mode.counted_append, htext, hjoins.counted_eq, Mode.counted_of_notMem hquestion, hcounted]
    rfl

end Ready

/-! ## The tree -/

namespace Node

mutual

/-- A part of a template that is arranged leaves fragments ready for what comes behind it. -/
theorem ready_of_arranged {s : Scope} {fragments : List Fragment} (inThen : Bool)
    (rest : List Mark) : (node : Node) → Arranged (node.marks inThen ++ rest) →
    Ready fragments (node.marks inThen ++ rest) → Ready (fragments ++ node.fragments s) rest
  | .literal text, harranged, hready => hready.append_literal harranged
  | .bind v, _, hready => by
    refine ((hready.fits rfl).append ?_).ready rest
    rw [Node.fragments]
    split
    · next value _ => exact .ofValue value
    · exact .nil
  | .embedded v, harranged, _ => absurd harranged not_false
  | .branch condition _ yes no, harranged, hready => by
    refine ((hready.fits rfl).append ?_).ready rest
    -- The yes side may end in a line comment, since the line that starts the no side ends it.
    obtain ⟨⟨mark, behind, hmark, hyes⟩, hno⟩ := harranged.parts
    rw [Node.fragments]
    split
    · exact (ready_of_arrangedAll true _ yes hyes .nil).fits_of_nil hmark
    · exact (ready_of_arrangedAll false _ no hno .nil).fits_of_nil rfl
    · exact .nil
  | .scope children, harranged, hready => by
    refine ((hready.fits rfl).append ?_).ready rest
    rw [Node.fragments]
    have hinside := ready_of_arrangedAll (s := s) false _ children harranged.inside .nil
    exact (hinside.fits_of_nil rfl).pruned
  | .loop path children, harranged, hready => by
    refine ((hready.fits rfl).append ?_).ready rest
    rw [Node.fragments]
    split
    · refine .flatMap fun frame _ => ?_
      exact (ready_of_arrangedAll false _ children harranged.inside .nil).fits_of_nil rfl
    · exact .nil
  | .connector text, harranged, hready => by
    refine ((hready.fits rfl).append ?_).ready rest
    obtain ⟨hquestion, houtside, -⟩ := harranged
    rw [Node.fragments]
    split_ifs
    · exact .plain houtside hquestion
    · exact .nil
  | .first children, harranged, hready | .last children, harranged, hready => by
    refine ((hready.fits rfl).append ?_).ready rest
    rw [Node.fragments]
    split_ifs
    · exact (ready_of_arrangedAll false _ children harranged.inside .nil).fits_of_nil rfl
    · exact .nil

/-- So do parts of a template one after the other. -/
theorem ready_of_arrangedAll {s : Scope} {fragments : List Fragment} (inThen : Bool)
    (rest : List Mark) : (nodes : List Node) → Arranged (marksOfAll inThen nodes ++ rest) →
    Ready fragments (marksOfAll inThen nodes ++ rest) →
    Ready (fragments ++ fragmentsOfAll s nodes) rest
  | [], _, hready => by
    rw [fragmentsOfAll, List.append_nil]
    exact hready
  | node :: nodes, harranged, hready => by
    rw [marksOfAll, List.append_assoc] at harranged hready
    have hnode := ready_of_arranged (s := s) inThen _ node harranged hready
    rw [fragmentsOfAll, ← List.append_assoc]
    exact ready_of_arrangedAll inThen rest nodes harranged.of_append hnode

end

end Node

/-- A template that is arranged has a placeholder for each bind, where its fragments have no
seam. -/
theorem Template.countPlaceholders_of_arranged {t : Template} {d : Dialect} {rootAlias : String}
    {parameters : Parameters} {statement : Statement} (hd : d.kind ≠ .postgres)
    (hembeds : t.embeds = false) (harranged : Arranged t.marks)
    (h : t.evaluate d rootAlias parameters = .ok statement)
    (hseam : ¬Mode.code.HasSeam (t.fragments rootAlias parameters)) :
    Statement.countPlaceholders statement.sql = statement.binds.length := by
  obtain ⟨hsql, hbinds⟩ := evaluate_fragments hd hembeds h
  have hmarks : Arranged (Node.marksOfAll false t.nodes ++ []) := by
    rwa [List.append_nil]
  have hready : Ready (t.fragments rootAlias parameters) [] :=
    Node.ready_of_arrangedAll false [] t.nodes hmarks .nil
  rw [Statement.countPlaceholders_eq, hsql, hbinds]
  exact (hready.resolve_left hseam).2

/-! ## From the tokens to the marks -/

/-- Plain SQL that is closed before the next token is arranged before the next mark. -/
theorem awaits_of_closedBefore {nullDisallowed : Bool} {text : String} {token : Token}
    {marks : List Mark} {tokens : List Token}
    (hkind : token.kind = .sql text ∨ token.kind = .otherwise text)
    (hstands : List.Forall₂ (fun (mark : Mark) token => mark.StandsFor nullDisallowed token.kind)
      marks tokens)
    (hclosed : ∀ next ∈ tokens.head?, token.ClosedBefore next) :
    Awaits (Mode.code.after text.toList) marks := by
  cases hstands with
  | nil => exact trivial
  | @cons mark next _ _ hmark =>
    have hnext := hclosed next rfl
    rcases hkind with hkind | hkind <;> simp only [Token.ClosedBefore, hkind] at hnext
    · exact awaits_of_isOutside hnext _
    · -- A separating line is followed by plain SQL that begins with the end of the line.
      obtain ⟨hline, sql, hsql, hhead⟩ := hnext
      rw [hsql] at hmark
      cases hmark
      exact .inr ⟨hline, hhead⟩

/-- The marks of tokens that are closed before one another are arranged, if no value is embedded and
each connector ends outside strings and comments. -/
theorem arranged_of_forall₂ {nullDisallowed : Bool} {marks : List Mark} {tokens : List Token}
    (hstands : List.Forall₂ (fun (mark : Mark) token => mark.StandsFor nullDisallowed token.kind)
      marks tokens)
    (hchain : tokens.IsChain Token.ClosedBefore)
    (htexts : ∀ mark ∈ marks, ∀ text ∈ mark.text?, '?' ∉ text.toList)
    (hembedded : ∀ v, Mark.embedded v ∉ marks)
    (hconnectors : ∀ text, Mark.connector text ∈ marks →
      (Mode.code.after text.toList).isOutside = true) : Arranged marks := by
  induction hstands with
  | nil => exact trivial
  | @cons mark token marks tokens hmark hstands ih =>
    -- Each token is closed before the next one, and so is the text of its mark.
    obtain ⟨hclosed, hchain⟩ := List.isChain_cons.1 hchain
    have hrest : Arranged marks :=
      ih hchain (fun mark hmem => htexts mark (List.mem_cons_of_mem _ hmem))
        (fun v hmem => hembedded v (List.mem_cons_of_mem _ hmem))
        fun text hmem => hconnectors text (List.mem_cons_of_mem _ hmem)
    cases mark with
    | literal text inThen =>
      have hquestion := htexts _ List.mem_cons_self text rfl
      have hkind : token.kind = .sql text ∨ token.kind = .otherwise text := by
        generalize token.kind = kind at hmark
        cases hmark with
        | sql => exact .inl rfl
        | line => exact .inr rfl
      exact ⟨hquestion, awaits_of_closedBefore hkind hstands hclosed, hrest⟩
    | connector text =>
      have hquestion := htexts _ List.mem_cons_self text rfl
      exact ⟨hquestion, hconnectors text List.mem_cons_self, hrest⟩
    | embedded v => exact hembedded v List.mem_cons_self
    | _ => exact hrest

/-- The tree of a text without a question mark is arranged, if it embeds no value, each connector
ends outside strings and comments, and no comment that stays in the SQL has another one inside. -/
theorem Template.arranged_of_parse {nullDisallowed : Bool} {text : String} {t : Template}
    (h : parse nullDisallowed text = .ok t) (hquestion : '?' ∉ text.toList)
    (hembeds : t.embeds = false)
    (hinner : ∀ body ∈ Token.comments text.toList, Variable.holdsComment body = false)
    (hconnectors : ∀ connector ∈ t.connectors,
      (Mode.code.after connector.toList).isOutside = true) : Arranged t.marks := by
  obtain ⟨tokens, htokens, htree⟩ := Outcome.bind_eq_ok.1 h
  have hstands := forall₂_standsFor_of_ofTokens htree (Token.isChain_adjoins_of_ofText htokens)
  refine arranged_of_forall₂ hstands (Token.isChain_closedBefore htokens hinner) ?_ ?_ ?_
  · intro mark hmark own hown hmem
    have htext : own ∈ t.texts := by
      rw [texts, Node.textsOfAll_eq_filterMap false]
      exact List.mem_filterMap.2 ⟨mark, hmark, hown⟩
    exact hquestion (texts_subset_of_parse h htext hmem)
  · intro v hv
    exact List.any_eq_false.1 hembeds _ hv rfl
  · intro connector hmark
    exact hconnectors connector (List.mem_filterMap.2 ⟨_, hmark, rfl⟩)

end SqlTemplate
