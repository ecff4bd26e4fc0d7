import SqlTemplate.Proofs.Template.Bracketing

/-!
# Parts that ask for no round

A connector and the parts for the first and the last round ask for the round of the loop around
them. All other parts stand alone: they ask for no round but those of the loops inside them
(`Node.standsAlone`). A text is refused in which such a part stands outside every loop, so all parts
of a template at the top level stand alone (`Template.standAlone_of_parse`).

While a text is read, this holds of the parts outside every open block, and of those in an open
block that no loop is around (`Builder.Placed`).
-/

namespace SqlTemplate

mutual

/-- The part asks for no round but those of the loops in it. -/
def Node.standsAlone : Node → Bool
  | .literal _ | .bind _ | .embedded _ | .loop _ _ => true
  | .branch _ _ yes no => standAlone yes && standAlone no
  | .scope children => standAlone children
  | .connector _ | .first _ | .last _ => false

/-- So do all the parts. -/
def Node.standAlone : List Node → Bool
  | [] => true
  | node :: rest => node.standsAlone && standAlone rest

end

namespace Node

/-- Parts stand alone if each of them does. -/
theorem standAlone_iff {nodes : List Node} :
    standAlone nodes = true ↔ ∀ node ∈ nodes, node.standsAlone = true := by
  induction nodes with
  | nil => simp [standAlone]
  | cons node rest ih => rw [standAlone, Bool.and_eq_true, ih, List.forall_mem_cons]

/-- Two groups of parts stand alone if both do. -/
theorem standAlone_append (nodes rest : List Node) :
    standAlone (nodes ++ rest) = (standAlone nodes && standAlone rest) := by
  rw [Bool.eq_iff_iff, Bool.and_eq_true, standAlone_iff, standAlone_iff, standAlone_iff,
    List.forall_mem_append]

end Node

/-- The block asks for no round, and its parts so far stand alone. -/
structure OpenBlock.StandsAlone (b : OpenBlock) : Prop where
  /-- It is not for the first round. -/
  ne_first : b.kind ≠ .first
  /-- It is not for the last one. -/
  ne_last : b.kind ≠ .last
  /-- Its first part, if that is complete, stands alone. -/
  yes : ∀ nodes ∈ b.yes, Node.standAlone nodes = true
  /-- So do the nodes of the part that is being read. -/
  latest : ∀ node ∈ b.latest, node.standsAlone = true

namespace OpenBlock

variable {block : OpenBlock}

/-- The nodes of the part that is being read stand alone. -/
theorem standAlone_children (h : block.StandsAlone) : Node.standAlone block.children = true :=
  Node.standAlone_iff.2 fun node hnode => h.latest node (List.mem_reverse.1 hnode)

/-- Closing the block makes a part that stands alone. -/
theorem standsAlone_toNode (h : block.isLoop = false → block.StandsAlone) :
    block.toNode.standsAlone = true := by
  cases hloop : block.isLoop with
  | true =>
    obtain ⟨kind, offset, yes, latest⟩ := block
    cases kind with
    | loop path => rfl
    | _ => exact absurd hloop Bool.false_ne_true
  | false =>
    have hblock := h hloop
    have hchildren := standAlone_children hblock
    obtain ⟨kind, offset, yes, latest⟩ := block
    cases kind with
    -- An open side is the yes side until the line that switches.
    | branch condition source =>
      cases yes with
      | none => exact Bool.and_eq_true_iff.2 ⟨hchildren, rfl⟩
      | some yes => exact Bool.and_eq_true_iff.2 ⟨hblock.yes yes rfl, hchildren⟩
    | scope => exact hchildren
    | loop path => exact absurd hloop Bool.false_ne_true.symm
    | first => exact absurd rfl hblock.ne_first
    | last => exact absurd rfl hblock.ne_last

/-- Beginning the second part makes no loop of a block. -/
theorem isLoop_switch {switched : OpenBlock} (h : block.switch? = some switched) :
    switched.isLoop = block.isLoop := by
  have hkind : switched.kind = block.kind := congrArg Prod.fst (Builder.header_switch h)
  rw [isLoop, isLoop, hkind]

/-- The block stands alone still when its second part begins. -/
theorem StandsAlone.switch (hblock : block.StandsAlone) {switched : OpenBlock}
    (h : block.switch? = some switched) : switched.StandsAlone := by
  unfold switch? at h
  split at h
  · obtain rfl := Option.some.inj h
    refine ⟨hblock.ne_first, hblock.ne_last, ?_, nofun⟩
    rintro nodes ⟨⟩
    exact standAlone_children hblock
  · simp at h

end OpenBlock

namespace Builder

/-- The parts outside every open block stand alone, and so does each open block that is no loop and
that no loop is around. -/
structure Placed (b : Builder) : Prop where
  /-- The parts outside every open block. -/
  top : ∀ node ∈ b.top, node.standsAlone = true
  /-- The open blocks. -/
  blocks : ∀ block outer, block :: outer <:+ b.blocks →
    (block :: outer).any OpenBlock.isLoop = false → block.StandsAlone

variable {b b' : Builder} {token : Token}

/-- A part may be added that stands alone, or any part inside a loop. -/
theorem Placed.push (h : b.Placed) {node : Node}
    (hnode : b.inLoop = false → node.standsAlone = true) : (b.push node).Placed := by
  obtain ⟨nullDisallowed, top, blocks⟩ := b
  cases blocks with
  | nil => exact ⟨List.forall_mem_cons.2 ⟨hnode rfl, h.top⟩, h.blocks⟩
  | cons innermost around =>
    refine ⟨h.top, fun block outer hsuffix hloop => ?_⟩
    rcases List.suffix_cons_iff.1 hsuffix with heq | hsuffix
    · obtain ⟨rfl, rfl⟩ := List.cons.inj heq
      -- The innermost block has got the part; that it is a loop does not depend on its parts.
      have hblock := h.blocks innermost outer (List.suffix_refl _) hloop
      exact ⟨hblock.ne_first, hblock.ne_last, hblock.yes,
        List.forall_mem_cons.2 ⟨hnode hloop, hblock.latest⟩⟩
    · exact h.blocks block outer (hsuffix.trans (List.suffix_cons _ _)) hloop

/-- A block may be opened that asks for no round, or any block inside a loop. -/
theorem Placed.enter (h : b.Placed) {kind : BlockKind} (offset : Nat)
    (hkind : b.inLoop = false → kind ≠ .first ∧ kind ≠ .last) : (b.enter kind offset).Placed := by
  refine ⟨h.top, fun block outer hsuffix hloop => ?_⟩
  rcases List.suffix_cons_iff.1 hsuffix with heq | hsuffix
  · obtain ⟨rfl, rfl⟩ := List.cons.inj heq
    rw [List.any_cons, Bool.or_eq_false_iff] at hloop
    obtain ⟨hfirst, hlast⟩ := hkind hloop.2
    exact ⟨hfirst, hlast, nofun, nofun⟩
  · exact h.blocks block outer hsuffix hloop

/-- A directive that asks for a loop is accepted inside a loop only. -/
theorem inLoop_of_requireLoop {directive : String} {offset : Nat}
    (h : b.requireLoop directive offset = .ok b') : b.inLoop = true := by
  unfold requireLoop at h
  split_ifs at h with hloop
  exact hloop

/-- A directive of a loop body is taken inside a loop only. -/
theorem inLoop_of_loopOnly {directive : String} (hkind : token.kind.loopOnly? = some directive)
    (h : b.accept token = .ok b') : b.inLoop = true := by
  obtain ⟨kind, offset⟩ := token
  cases kind with
  | connector argument =>
    obtain ⟨inner, hloop, -⟩ := Outcome.bind_eq_ok.1 h
    exact inLoop_of_requireLoop hloop
  | first | last =>
    obtain ⟨inner, hloop, -⟩ := Outcome.map_eq_ok.1 h
    exact inLoop_of_requireLoop hloop
  | _ => nomatch hkind

/-- A leaf that asks for a round comes from a directive of a loop body. -/
theorem standsAlone_of_leaf {node : Node} {mark : Mark} {inThen : Bool} {kind : TokenKind}
    (hnode : node.marks inThen = [mark]) (hstands : mark.StandsFor b.nullDisallowed kind)
    (hkind : kind.loopOnly? = none) : node.standsAlone = true := by
  cases node with
  | literal | bind | embedded | loop => rfl
  | connector text =>
    obtain rfl := List.singleton_inj.1 hnode
    cases hstands
    nomatch hkind
  | branch | scope | first | last => simp [Node.marks] at hnode

/-- A block that asks for a round comes from a directive of a loop body. -/
theorem ne_of_opening {kind : BlockKind} {tokenKind : TokenKind}
    (hstands : (Mark.opening kind).StandsFor b.nullDisallowed tokenKind)
    (hkind : tokenKind.loopOnly? = none) : kind ≠ .first ∧ kind ≠ .last := by
  cases hstands with
  | first | last => nomatch hkind
  | branch | scope | loop => exact ⟨nofun, nofun⟩

/-- One more token is taken. -/
theorem Placed.accept (h : b.Placed) (haccept : b.accept token = .ok b') : b'.Placed := by
  -- Outside a loop no directive is taken that belongs to one.
  have hloopOnly : b.inLoop = false → token.kind.loopOnly? = none := by
    intro hloop
    by_contra hkind
    obtain ⟨directive, hdirective⟩ := Option.ne_none_iff_exists'.1 hkind
    have hinLoop := inLoop_of_loopOnly hdirective haccept
    exact Bool.false_ne_true (hloop.symm.trans hinLoop)
  cases takes_of_accept haccept with
  | leaf hnode hstands =>
    exact h.push fun hloop => standsAlone_of_leaf hnode hstands (hloopOnly hloop)
  | enter hstands => exact h.enter _ fun hloop => ne_of_opening hstands (hloopOnly hloop)
  | @switch innermost switched around _ hblocks hswitch =>
    have hplaced := h.blocks
    rw [hblocks] at hplaced
    refine ⟨h.top, fun block outer hsuffix hloop => ?_⟩
    rcases List.suffix_cons_iff.1 hsuffix with heq | hsuffix
    · obtain ⟨rfl, rfl⟩ := List.cons.inj heq
      rw [List.any_cons, OpenBlock.isLoop_switch hswitch, ← List.any_cons] at hloop
      exact (hplaced innermost outer (List.suffix_refl _) hloop).switch hswitch
    · exact hplaced block outer (hsuffix.trans (List.suffix_cons _ _)) hloop
  | @close innermost around hblocks =>
    have hplaced := h.blocks
    rw [hblocks] at hplaced
    have houter : Placed { b with blocks := around } :=
      ⟨h.top, fun block outer hsuffix => hplaced block outer (hsuffix.trans (List.suffix_cons _ _))⟩
    refine houter.push fun hloop => OpenBlock.standsAlone_toNode fun hinnermost => ?_
    refine hplaced innermost around (List.suffix_refl _) ?_
    rw [List.any_cons, hinnermost, Bool.false_or]
    exact hloop

/-- All tokens are taken. -/
theorem Placed.acceptAll (h : b.Placed) {tokens : List Token}
    (haccept : b.acceptAll tokens = .ok b') : b'.Placed := by
  induction tokens generalizing b with
  | nil =>
    obtain rfl := Except.ok.inj haccept
    exact h
  | cons token rest ih =>
    obtain ⟨next, hfirst, hrest⟩ := Outcome.bind_eq_ok.1 haccept
    exact ih (h.accept hfirst) hrest

end Builder

/-- The parts of a template at the top level stand alone. -/
theorem Template.standAlone_of_parse {nullDisallowed : Bool} {text : String} {t : Template}
    (h : parse nullDisallowed text = .ok t) : Node.standAlone t.nodes = true := by
  obtain ⟨tokens, -, h⟩ := Outcome.bind_eq_ok.1 h
  obtain ⟨b, haccept, hfinish⟩ := Outcome.bind_eq_ok.1 h
  have hstart : Builder.Placed { nullDisallowed } := ⟨nofun, fun _ _ hsuffix => by simp at hsuffix⟩
  have hplaced := hstart.acceptAll haccept
  unfold Builder.finish at hfinish
  split at hfinish
  · obtain rfl := Except.ok.inj hfinish
    exact Node.standAlone_iff.2 fun node hnode => hplaced.top node (List.mem_reverse.1 hnode)
  · simp at hfinish

end SqlTemplate
