import SqlTemplate.Proofs.Render.Connectors
import SqlTemplate.Proofs.Render.Invariant
import SqlTemplate.Proofs.Render.Woven

/-!
# What a scope contributes

A scope is pruned once its text is known. Which texts are dropped, which lose a connector and which
stay as they are is said by `prune_extent`, for every text, together with what this means for a
scope: since every bind has a mark in the text (`Buffer.Marked`) and vacant texts have none, a scope
that is dropped has recorded no bind.

A scope takes out one connector. So a scope that holds nothing but another scope contributes what
the inner one does, unless two connectors stood one behind the other in there (`prune_again`).
-/

namespace SqlTemplate

/-- The text without its blanks. -/
def visible (cs : List Char) : List Char :=
  cs.filter (!Text.isBlank ·)

/-- What is visible of two texts is what is visible of each. -/
@[simp] theorem visible_append (cs ds : List Char) :
    visible (cs ++ ds) = visible cs ++ visible ds :=
  List.filter_append ..

/-- Nothing is visible of blanks. -/
theorem visible_of_allBlank {cs : List Char} (h : AllBlank cs) : visible cs = [] := by
  refine List.filter_eq_nil_iff.2 fun c hc => ?_
  rw [h c hc]
  decide

/-- Blanks at the start of a text do not show. -/
theorem visible_trimStart (cs : List Char) : visible (Text.trimStart cs) = visible cs := by
  have hsplit := splitBlanks_append cs
  have hlead : AllBlank (splitBlanks cs).1 := fun _ => isBlank_of_mem_splitBlanks
  rw [← congrArg visible hsplit, visible_append, visible_of_allBlank hlead, List.nil_append]
  rfl

/-- A word of letters is visible throughout. -/
theorem visible_of_isAlpha {word : List Char} (h : ∀ c ∈ word, c.isAlpha = true) :
    visible word = word := by
  refine List.filter_eq_self.2 fun c hc => ?_
  have hends := endsClauseWord_of_isAlpha (h c hc)
  rw [(Bool.or_eq_false_iff.1 hends).1]
  rfl

/-- The text of a scope is pruned by its characters. -/
theorem prune_eq_some_iff {s t : String} :
    prune s = some t ↔ pruneChars s.toList = some t.toList := by
  rw [prune, Option.map_eq_some_iff]
  constructor
  · rintro ⟨out, hout, rfl⟩
    rwa [String.toList_ofList]
  · exact fun h => ⟨t.toList, h, String.ofList_toList⟩

/-- A scope vanishes if its characters do. -/
theorem prune_eq_none_iff {s : String} : prune s = none ↔ pruneChars s.toList = none :=
  Option.map_eq_none_iff

/-- Pruning takes no visible character out of a text but those of one connector. -/
theorem visible_pruneChars {cs out : List Char} (h : pruneChars cs = some out) :
    ∃ before connector after : List Char, (connector = [] ∨ isConnector connector = true) ∧
      visible cs = before ++ connector ++ after ∧ visible out = before ++ after := by
  rcases pruneChars_cases cs with ⟨-, hnone⟩ | ⟨o, rest, rfl, -, -, hsome⟩ | ⟨-, -, hsome⟩
  · simp [hnone] at h
  · obtain rfl := Option.some.inj (hsome.symm.trans h)
    refine ⟨visible (o.lead ++ o.keyword), o.connector, visible rest,
      .inr o.connector_isConnector, ?_, ?_⟩
    · simp only [Dangling.text, visible_append, visible_of_allBlank o.gap_blank, List.append_nil,
        visible_of_isAlpha (isAlpha_of_isConnector o.connector_isConnector)]
    · simp only [Dangling.kept, visible_append, visible_of_allBlank o.gapKept_blank,
        List.append_nil, visible_trimStart]
  · obtain rfl := Option.some.inj (hsome.symm.trans h)
    exact ⟨visible cs, [], [], .inl rfl, by simp, by simp⟩

/-! ## Binds and their marks -/

/-- A buffer that holds a bind holds the mark of a placeholder. -/
def Buffer.Marked (d : Dialect) (b : Buffer) : Prop :=
  b.binds ≠ [] → d.marker ∈ b.sql.toList

/-- Pruning takes no mark out of a text. -/
theorem marker_mem_of_prune {d : Dialect} {sql text : String} (h : prune sql = some text)
    (hmarker : d.marker ∈ sql.toList) : d.marker ∈ text.toList := by
  obtain ⟨out, hout, rfl⟩ := Option.map_eq_some_iff.1 h
  rw [String.toList_ofList]
  rcases pruneChars_eq_some hout with rfl | ⟨rfl, hstart, -⟩
  · exact hmarker
  · rw [← Opening.start_append_remaining sql.toList, List.mem_append] at hmarker
    have hremaining :=
      hmarker.resolve_left (Dialect.marker_notMem_of_isBlankOrLetter hstart)
    exact List.mem_append_right _ hremaining

/-- Every bind is recorded with a placeholder, which pruning leaves in its place. -/
theorem Buffer.invariant_marked (d : Dialect) : Buffer.Invariant d (Buffer.Marked d) where
  push {b} text hb hbinds := by
    show d.marker ∈ (b.sql ++ text).toList
    rw [String.toList_append]
    exact List.mem_append_left _ (hb hbinds)
  pushBind {b} bind _ _ := by
    show d.marker ∈ (b.sql ++ d.placeholder (b.position + 1)).toList
    obtain ⟨rest, hplaceholder⟩ := d.placeholder_eq_marker_cons (b.position + 1)
    rw [String.toList_append, hplaceholder]
    exact List.mem_append_right _ List.mem_cons_self
  fork _ hbinds := absurd rfl hbinds
  mergePruned {b child} hb hchild := by
    unfold Buffer.mergePruned
    split
    · next text hprune =>
      intro hbinds
      show d.marker ∈ (b.sql ++ text).toList
      rw [String.toList_append]
      -- A mark stands in one of the two texts, since one of them has a bind.
      by_cases hbefore : b.binds = []
      · have hinner : child.binds ≠ [] := by
          intro hinner
          refine hbinds ?_
          show b.binds ++ child.binds = []
          rw [hbefore, hinner, List.append_nil]
        exact List.mem_append_right _ (marker_mem_of_prune hprune (hchild hinner))
      · exact List.mem_append_left _ (hb hbefore)
    · exact hb

/-- A scope that is dropped has recorded no bind. -/
theorem binds_eq_nil_of_prune {d : Dialect} {room : Nat} {s : Scope} {children : List Node}
    {b child : Buffer} (h : Node.walkAll d (expansion d room) s children b.fork = .ok child)
    (hprune : prune child.sql = none) : child.binds = [] := by
  have hinvariant := Buffer.invariant_marked d
  have hmarked : child.Marked d :=
    Node.invariant_walkAll hinvariant (invariant_expansion hinvariant room)
      (fun hbinds => absurd rfl hbinds) children h
  by_contra hbinds
  have hletters := isBlankOrLetter_of_pruneChars_eq_none (Option.map_eq_none_iff.1 hprune)
  exact Dialect.marker_notMem_of_isBlankOrLetter hletters (hmarked hbinds)

/-- A text with two connectors behind its keyword is not dropped. -/
theorem DanglesTwice.not_vacant {cs : List Char} (h : DanglesTwice cs) : ¬Vacant cs := by
  obtain ⟨o, space, connector, rest, rfl, hne, hspace, hconnector, -⟩ := h
  rw [List.append_assoc, List.append_assoc]
  have hends := hspace.wordEnds_append hne (connector ++ rest)
  -- Behind the first connector stands a letter.
  have hletter : ¬AllBlank (space ++ (connector ++ rest)) := by
    obtain ⟨first, tail, rfl⟩ := List.exists_cons_of_ne_nil (ne_nil_of_isConnector hconnector)
    intro hall
    have hblank := hall first (List.mem_append_right _ List.mem_cons_self)
    have hends :=
      endsClauseWord_of_isAlpha (isAlpha_of_isConnector hconnector first List.mem_cons_self)
    rw [(Bool.or_eq_false_iff.1 hends).1] at hblank
    exact Bool.false_ne_true hblank
  have hsome := pruneChars_dangling o hends
  rw [if_neg (mt isEmpty_splitBlanks.1 hletter)] at hsome
  rw [← pruneChars_eq_none_iff, hsome]
  exact Option.some_ne_none _

/-- What is left of a scope is pruned to itself unless two connectors stood in it one behind the
other. -/
theorem prune_eq_self_iff {s t : String} (h : prune s = some t) :
    prune t = some t ↔ ¬DanglesTwice s.toList := by
  have hchars := prune_eq_some_iff.1 h
  rw [prune_eq_some_iff, pruneChars_eq_self_iff, ← dangles_pruneChars_iff hchars]
  refine ⟨And.right, fun hdangles => ⟨fun hvacant => ?_, hdangles⟩⟩
  -- A vacant text that is neither blank nor a lone keyword begins with a dangling connector.
  obtain ⟨hblank, hlone⟩ := not_lone_of_pruneChars hchars
  generalize t.toList = out at *
  cases hvacant with
  | blank h => exact hblank h
  | keyword h => exact hlone h
  | connector o htail => exact hdangles ⟨o, _, rfl, htail.wordEnds⟩

/-- A scope that is pruned twice is merged as if it had been pruned once, unless two connectors
stood in it one behind the other. -/
theorem Buffer.mergePruned_mergePruned_iff (b child : Buffer) :
    b.mergePruned (b.fork.mergePruned child) = b.mergePruned child ↔
      ¬DanglesTwice child.sql.toList := by
  cases hprune : prune child.sql with
  | none =>
    -- Both times nothing is left.
    have hvacant : Vacant child.sql.toList :=
      pruneChars_eq_none_iff.1 (prune_eq_none_iff.1 hprune)
    refine iff_of_true ?_ fun htwice => htwice.not_vacant hvacant
    have hempty : prune "" = none := by decide
    simp only [Buffer.mergePruned, hprune, Buffer.fork, hempty]
  | some t =>
    have hinner : b.fork.mergePruned child = ⟨b.position, t, child.binds⟩ := by
      simp only [Buffer.mergePruned, hprune, Buffer.merge, Buffer.fork, String.empty_append,
        List.nil_append]
    rw [← prune_eq_self_iff hprune, hinner]
    simp only [Buffer.mergePruned, hprune]
    have hne : t ≠ "" := by
      rintro rfl
      exact (not_lone_of_pruneChars (prune_eq_some_iff.1 hprune)).1 allBlank_nil
    cases hagain : prune t with
    | none =>
      refine iff_of_false (fun hsame => hne ?_) (by simp)
      have hsql : b.sql = b.sql ++ t := congrArg Buffer.sql hsame
      rw [← String.toList_inj, String.toList_append, List.self_eq_append_right] at hsql
      exact String.toList_inj.1 hsql
    | some t' =>
      simp [Buffer.merge]

/-- Pruning drops exactly the vacant texts, takes the connector out of those that begin with a
dangling one and go on behind it, and leaves all others as they are. So the visible characters of a
text stay, but for those of one connector, and a scope that is dropped has recorded no bind. -/
theorem prune_extent :
    (∀ s : String, prune s = none ↔ Vacant s.toList) ∧
    (∀ s t : String, prune s = some t ↔
      (∃ (o : Dangling) (rest : List Char), s.toList = o.text ++ rest ∧ WordEnds rest ∧
        ¬AllBlank rest ∧ t.toList = o.kept ++ Text.trimStart rest) ∨
      (¬Vacant s.toList ∧ ¬Dangles s.toList ∧ t = s)) ∧
    (∀ s t : String, prune s = some t → ∃ before connector after : List Char,
      (connector = [] ∨ isConnector connector = true) ∧
      visible s.toList = before ++ connector ++ after ∧ visible t.toList = before ++ after) ∧
    ∀ (d : Dialect) (room : Nat) (s : Scope) (children : List Node) (b child : Buffer),
      Node.walkAll d (expansion d room) s children b.fork = .ok child → prune child.sql = none →
      child.binds = [] ∧ (Node.scope children).walk d (expansion d room) s b = .ok b := by
  refine ⟨fun s => ?_, fun s t => ?_, fun s t h => ?_, ?_⟩
  · rw [prune_eq_none_iff, pruneChars_eq_none_iff]
  · rw [prune_eq_some_iff, pruneChars_eq_some_iff, String.toList_inj]
  · exact visible_pruneChars (prune_eq_some_iff.1 h)
  · intro d room s children b child h hprune
    refine ⟨binds_eq_nil_of_prune h hprune, ?_⟩
    show (Node.walkAll d (expansion d room) s children b.fork >>= fun child =>
      pure (b.mergePruned child)) = .ok b
    rw [h]
    show Except.ok (b.mergePruned child) = .ok b
    rw [Buffer.mergePruned, hprune]

/-- A keyword whose variable is null is dropped with its scope. In another text the dangling
connector goes, and the line break before it stays. -/
theorem prune_extent_dropped :
    let d : Dialect := { kind := .postgres }
    let s : Scope := ⟨"pmb", { properties := [("a", .null)] }, []⟩
    let dropped : List Node := [.literal "\tWhere \n", .bind ⟨⟨"a", []⟩, {}, false⟩]
    (∃ child, Node.walkAll d (expansion d 8) s dropped (Buffer.fork {}) = .ok child ∧
      prune child.sql = none ∧ child.binds = [] ∧
      (Node.scope dropped).walk d (expansion d 8) s {} = .ok {}) ∧
    prune "where\n OR (B = $1)" = some "where\n (B = $1)" ∧
      ∃ before connector after : List Char, (connector = [] ∨ isConnector connector = true) ∧
        visible "where\n OR (B = $1)".toList = before ++ connector ++ after ∧
        visible "where\n (B = $1)".toList = before ++ after := by
  intro d s dropped
  have hchild : Node.walkAll d (expansion d 8) s dropped (Buffer.fork {}) =
      .ok { sql := "\tWhere \n" } := rfl
  have hnone : prune "\tWhere \n" = none := by decide +kernel
  have hsome : prune "where\n OR (B = $1)" = some "where\n (B = $1)" := by decide +kernel
  exact ⟨⟨_, hchild, hnone, prune_extent.2.2.2 d 8 s dropped {} _ hchild hnone⟩, hsome,
    prune_extent.2.2.1 _ _ hsome⟩

/-- What pruning leaves is neither blank nor a lone keyword. It begins with a dangling connector,
and would be pruned again, exactly if two connectors stood behind the keyword, one directly behind
the other. So a scope that holds nothing but a scope contributes what the inner one does, unless the
text in there begins with two connectors. -/
theorem prune_again :
    (∀ s t : String, prune s = some t →
      ¬AllBlank t.toList ∧ ¬LoneKeyword t.toList ∧
      (Dangles t.toList ↔ DanglesTwice s.toList) ∧
      (prune t = some t ↔ ¬DanglesTwice s.toList)) ∧
    ∀ (d : Dialect) (expand : Expansion) (s : Scope) (children : List Node) (b : Buffer),
      (Node.scope [.scope children]).walk d expand s b = (Node.scope children).walk d expand s b ↔
        ∀ child, Node.walkAll d expand s children b.fork = .ok child →
          ¬DanglesTwice child.sql.toList := by
  refine ⟨fun s t h => ?_, fun d expand s children b => ?_⟩
  · have hchars := prune_eq_some_iff.1 h
    obtain ⟨hblank, hlone⟩ := not_lone_of_pruneChars hchars
    exact ⟨hblank, hlone, dangles_pruneChars_iff hchars, prune_eq_self_iff h⟩
  · -- The buffer of the inner scope counts from where that of the outer one does.
    have hfork : b.fork.fork = b.fork := rfl
    simp only [Node.walk, Node.walkAll, hfork]
    cases Node.walkAll d expand s children b.fork with
    | error e => exact iff_of_true rfl nofun
    | ok child =>
      have hmerge := Buffer.mergePruned_mergePruned_iff b child
      constructor
      · rintro h _ ⟨⟩
        exact hmerge.1 (Except.ok.inj h)
      · intro h
        exact congrArg Except.ok (hmerge.2 (h child rfl))

/-- A connector behind a keyword goes with the inner scope, and the outer one leaves the text be. -/
theorem prune_again_nested :
    let d : Dialect := { kind := .postgres }
    let s : Scope := ⟨"pmb", {}, []⟩
    let children : List Node := [.literal "where ", .literal " and B = 1"]
    prune "where  and B = 1" = some "where B = 1" ∧ ¬Dangles "where B = 1".toList ∧
      prune "where B = 1" = some "where B = 1" ∧
      (Node.scope [.scope children]).walk d (expansion d 8) s {} =
        (Node.scope children).walk d (expansion d 8) s {} := by
  intro d s children
  have hprune : prune "where  and B = 1" = some "where B = 1" := by decide +kernel
  have hagain : prune "where B = 1" = some "where B = 1" := by decide +kernel
  obtain ⟨-, -, hdangles, hself⟩ := prune_again.1 _ _ hprune
  have htwice := hself.1 hagain
  have hchild : Node.walkAll d (expansion d 8) s children (Buffer.fork {}) =
      .ok { sql := "where  and B = 1" } := rfl
  refine ⟨hprune, mt hdangles.1 htwice, hagain,
    (prune_again.2 d (expansion d 8) s children {}).2 ?_⟩
  intro child h
  obtain rfl := Except.ok.inj (hchild.symm.trans h)
  exact htwice

/-- Of two connectors behind a keyword the second one stays and dangles in its turn, and of a
keyword with two lone connectors a bare one is left. -/
theorem prune_two_connectors :
    (prune "where and and B = ?" = some "where and B = ?" ∧ Dangles "where and B = ?".toList ∧
      prune "where and B = ?" = some "where B = ?") ∧
    (prune "where and or" = some "where or" ∧ prune "where or" = none) ∧
    ¬∀ s t : String, prune s = some t → ¬Dangles t.toList ∧ prune t = some t := by
  have hdangles : Dangles "where and B = ?".toList := by
    let o : Dangling := ⟨[], "where".toList, [' '], "and".toList, by decide, by decide, by decide,
      by decide, by decide⟩
    exact ⟨o, " B = ?".toList, by decide, by decide⟩
  have hfirst : prune "where and and B = ?" = some "where and B = ?" := by decide +kernel
  refine ⟨⟨hfirst, hdangles, by decide +kernel⟩, ⟨by decide +kernel, by decide +kernel⟩, ?_⟩
  intro h
  exact (h _ _ hfirst).1 hdangles

end SqlTemplate
