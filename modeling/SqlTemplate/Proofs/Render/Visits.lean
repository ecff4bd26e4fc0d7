import SqlTemplate.Proofs.Render.Agenda
import SqlTemplate.Proofs.Render.Binds

/-!
# The parts that an evaluation visits

`Visits` lists the parts that the steps of a walk replace, one after the other. What goes over from
a part to those that it gives way to holds of all parts that are visited (`Visits.forall_mem`).

An evaluation that succeeds visits the parts of its walk, and the binds of its statement are those
of the bound variables among them, in this order (`Template.exists_visits`). No bind is lost with a
scope that vanishes: the placeholder of a bind holds the mark of the dialect (`Buffer.Collects`),
and such a scope holds blanks and letters only.
-/

namespace SqlTemplate

/-- The binds of a part: those of its value if it is a bound variable. -/
def Pending.binds (p : Pending) : List Bind :=
  match p.node with
  | .bind v =>
    match p.scope.resolve v.path with
    | .ok value => v.bindsOf value
    | .error _ => []
  | _ => []

/-- The walk gets from some parts to others by replacing these parts, one after the other. -/
inductive Visits (d : Dialect) (limit : Option Nat) :
    List Pending → List Pending → List Pending → Prop
  /-- No step is taken. -/
  | nil (parts : List Pending) : Visits d limit parts [] parts
  /-- The first part is replaced, and then others are. -/
  | cons {p : Pending} {parts rest visited after : List Pending} (h : p.unfold d limit = .ok parts)
      (hrest : Visits d limit (parts ++ rest) visited after) :
      Visits d limit (p :: rest) (p :: visited) after

namespace Visits

variable {d : Dialect} {limit : Option Nat} {before middle after visited more : List Pending}

/-- Walks one after the other visit the parts of both. -/
theorem trans (h : Visits d limit before visited middle) (h' : Visits d limit middle more after) :
    Visits d limit before (visited ++ more) after := by
  induction h with
  | nil => exact h'
  | cons hunfold _ ih => exact .cons hunfold (ih h')

/-- Each part that is visited can be replaced. -/
theorem exists_unfold (h : Visits d limit before visited after) :
    ∀ p ∈ visited, ∃ parts, p.unfold d limit = .ok parts := by
  induction h with
  | nil => exact fun p hp => absurd hp List.not_mem_nil
  | cons hunfold _ ih => exact List.forall_mem_cons.2 ⟨⟨_, hunfold⟩, ih⟩

/-- What goes over from a part to those that it gives way to holds of all that are visited. -/
theorem forall_mem {P : Pending → Prop} (hP : ∀ {p q}, P p → Pending.Gives limit p q → P q)
    (h : Visits d limit before visited after) (hbefore : ∀ p ∈ before, P p) :
    ∀ p ∈ visited, P p := by
  induction h with
  | nil => exact fun p hp => absurd hp List.not_mem_nil
  | cons hunfold _ ih =>
    obtain ⟨hp, hrest⟩ := List.forall_mem_cons.1 hbefore
    refine List.forall_mem_cons.2 ⟨hp, ih (List.forall_mem_append.2 ⟨fun q hq => ?_, hrest⟩)⟩
    exact hP hp (Pending.gives_of_mem_unfold hunfold hq)

end Visits

/-! ## What a step adds to a buffer -/

/-- A step has added these binds, and a text that holds the mark if there are any. -/
structure Buffer.Collects (d : Dialect) (b b' : Buffer) (added : List Bind) : Prop where
  /-- The binds come behind those that were there. -/
  binds : b'.binds = b.binds ++ added
  /-- So does the text, which is not without the mark. -/
  sql : ∃ text : String, b'.sql = b.sql ++ text ∧ (added ≠ [] → d.marker ∈ text.toList)

namespace Buffer.Collects

variable {d : Dialect} {b b₁ b₂ : Buffer} {added added₁ added₂ : List Bind}

/-- A text adds no bind, whatever it is. -/
theorem push (d : Dialect) (b : Buffer) (text : String) : Collects d b (b.push text) [] :=
  ⟨(List.append_nil _).symm, text, rfl, fun h => absurd rfl h⟩

/-- A step that does nothing collects nothing. -/
theorem refl (d : Dialect) (b : Buffer) : Collects d b b [] :=
  ⟨(List.append_nil _).symm, "", String.append_empty.symm, fun h => absurd rfl h⟩

/-- Steps one after the other. -/
theorem trans (h₁ : Collects d b b₁ added₁) (h₂ : Collects d b₁ b₂ added₂) :
    Collects d b b₂ (added₁ ++ added₂) := by
  obtain ⟨text₁, hsql₁, hmark₁⟩ := h₁.sql
  obtain ⟨text₂, hsql₂, hmark₂⟩ := h₂.sql
  refine ⟨?_, text₁ ++ text₂, ?_, fun hne => ?_⟩
  · rw [h₂.binds, h₁.binds, List.append_assoc]
  · rw [hsql₂, hsql₁, String.append_assoc]
  · rw [String.toList_append, List.mem_append]
    by_cases hnone : added₁ = []
    · rw [hnone, List.nil_append] at hne
      exact .inr (hmark₂ hne)
    · exact .inl (hmark₁ hnone)

/-- Binds that are added with their placeholders come with the mark. -/
theorem of_extends (h : b.Extends d b₁ added) : Collects d b b₁ added := by
  obtain ⟨text, hsql, hwoven⟩ := h.sql
  refine ⟨h.binds, text, hsql, fun hne => ?_⟩
  by_contra hmark
  exact hne (List.eq_nil_of_length_eq_zero (hwoven.eq_zero hmark))

/-- A pruned scope adds all its binds: what pruning takes out holds no mark. -/
theorem mergePruned {child : Buffer} (h : Collects d b.fork child added) :
    Collects d b (b.mergePruned child) added := by
  obtain ⟨text, hsql, hmark⟩ := h.sql
  have hchild : child.sql = text := hsql.trans String.empty_append
  have hbinds : child.binds = added := h.binds.trans (List.nil_append _)
  unfold Buffer.mergePruned
  split
  · next out hprune =>
    refine ⟨by rw [Buffer.merge, hbinds], out, rfl, fun hne => ?_⟩
    obtain ⟨cs, hcs, rfl⟩ := Option.map_eq_some_iff.1 hprune
    rw [hchild] at hcs
    rw [String.toList_ofList]
    rcases pruneChars_eq_some hcs with rfl | ⟨rfl, hstart, -⟩
    · exact hmark hne
    · have htext := hmark hne
      rw [← Opening.start_append_remaining text.toList, List.mem_append] at htext
      exact List.mem_append_right _
        (htext.resolve_left (Dialect.marker_notMem_of_isBlankOrLetter hstart))
  · next hprune =>
    rw [hchild] at hprune
    have hplain := isBlankOrLetter_of_pruneChars_eq_none (Option.map_eq_none_iff.1 hprune)
    have hnone : added = [] := by
      by_contra hne
      exact Dialect.marker_notMem_of_isBlankOrLetter hplain (hmark hne)
    rw [hnone]
    exact refl d b

end Buffer.Collects

/-! ## What a walk visits and adds -/

/-- The walk replaces these parts and all that they give way to, and adds the binds of what it
visits. -/
def Walked (d : Dialect) (parts : List Pending) (b b' : Buffer) : Prop :=
  ∃ visited, (∀ rest, Visits d (some maxDepth) (parts ++ rest) visited rest) ∧
    b.Collects d b' (visited.flatMap Pending.binds)

namespace Walked

variable {d : Dialect} {p : Pending} {parts more : List Pending} {b b₁ b₂ : Buffer}

/-- Nothing is walked without a part. -/
theorem nil (d : Dialect) (b : Buffer) : Walked d [] b b :=
  ⟨[], fun rest => .nil rest, .refl d b⟩

/-- Parts one after the other. -/
theorem append (h : Walked d parts b b₁) (h' : Walked d more b₁ b₂) :
    Walked d (parts ++ more) b b₂ := by
  obtain ⟨visited, hvisits, hcollects⟩ := h
  obtain ⟨visited', hvisits', hcollects'⟩ := h'
  refine ⟨visited ++ visited', fun rest => ?_, ?_⟩
  · rw [List.append_assoc]
    exact (hvisits _).trans (hvisits' rest)
  · rw [List.flatMap_append]
    exact hcollects.trans hcollects'

/-- A part that gives way to others and has no binds of its own. -/
theorem unfold (hunfold : p.unfold d (some maxDepth) = .ok parts) (hbinds : p.binds = [])
    (h : Walked d parts b b₁) : Walked d [p] b b₁ := by
  obtain ⟨visited, hvisits, hcollects⟩ := h
  refine ⟨p :: visited, fun rest => .cons hunfold (hvisits rest), ?_⟩
  rw [List.flatMap_cons, hbinds]
  exact hcollects

/-- A part that gives way to nothing adds its own binds. -/
theorem leaf (hunfold : p.unfold d (some maxDepth) = .ok []) (h : b.Collects d b₁ p.binds) :
    Walked d [p] b b₁ := by
  refine ⟨[p], fun rest => .cons hunfold (.nil rest), ?_⟩
  rw [List.flatMap_singleton]
  exact h

/-- A scope is pruned once its parts have been walked. -/
theorem mergePruned {child : Buffer} (h : Walked d parts b.fork child) :
    Walked d parts b (b.mergePruned child) := by
  obtain ⟨visited, hvisits, hcollects⟩ := h
  exact ⟨visited, hvisits, hcollects.mergePruned⟩

end Walked

/-- How values are written that are templates of their own walks their parts at a level. -/
def WalksAt (d : Dialect) (level : Nat) (expand : Expansion) : Prop :=
  ∀ ⦃v : Variable⦄ ⦃s : Scope⦄ ⦃value : Value⦄ ⦃text : String⦄ ⦃b b' : Buffer⦄,
    s.valueOf v.path = .ok value → v.embedded? value = some text →
    expand v s text b = .ok b' → Walked d [⟨level, s, .embedded v⟩] b b'

/-- A variable that embeds no template adds no bind. -/
theorem Variable.collects_of_pushEmbedded {v : Variable} {d : Dialect} {value : Value}
    {b b' : Buffer} (h : v.pushEmbedded d (fun _ => .ok) value b = .ok b') :
    b.Collects d b' [] := by
  rcases pushEmbedded_eq_ok h with ⟨-, rfl⟩ | ⟨text, -, hsame⟩ | ⟨text, -, -, rfl⟩ | ⟨-, rfl⟩ |
    ⟨items, texts, -, -, -, -, rfl⟩
  · exact .refl d b'
  · obtain rfl := Except.ok.inj hsame
    exact .refl d b
  · exact .push d b text
  · exact .push d b _
  · exact .push d b _

section Walking

variable {d : Dialect} {level : Nat} {expand : Expansion} {s : Scope} {b b' : Buffer}

/-- A bound variable gives way to nothing and adds its binds. -/
theorem walked_bind {v : Variable} (h : (Node.bind v).walk d expand s b = .ok b') :
    Walked d [⟨level, s, .bind v⟩] b b' := by
  obtain ⟨value, hvalue, h⟩ := Outcome.bind_eq_ok.1 h
  refine .leaf ?_ ?_
  · show (s.valueOf v.path >>= fun value => (v.pushBound d value {}).map fun _ => []) = _
    rw [hvalue, Outcome.ok_bind, v.pushBound_map d [] value {} b, h]
    rfl
  · simp only [Pending.binds, Scope.valueOf_eq_ok.1 hvalue]
    exact .of_extends (Variable.extends_of_pushBound h)

/-- An embedded variable gives way to the template that it embeds, or to nothing. -/
theorem walked_embedded (hexpand : WalksAt d level expand) {v : Variable}
    (h : (Node.embedded v).walk d expand s b = .ok b') :
    Walked d [⟨level, s, .embedded v⟩] b b' := by
  obtain ⟨value, hvalue, h⟩ := Outcome.bind_eq_ok.1 h
  cases hembedded : v.embedded? value with
  | some text =>
    rw [v.pushEmbedded_eq, hembedded] at h
    exact hexpand hvalue hembedded h
  | none =>
    rw [v.pushEmbedded_eq, hembedded] at h
    have hpush : v.pushEmbedded d (fun _ => .ok) value b = .ok b' := h
    refine .leaf ?_ (Variable.collects_of_pushEmbedded hpush)
    simp only [Pending.unfold, hvalue, Outcome.ok_bind, hembedded]
    rw [v.pushEmbedded_map d [] value {} b, hpush]
    rfl

mutual

/-- The evaluation of a part walks it. -/
theorem walked_of_walk (hexpand : WalksAt d level expand) {s : Scope} {b b' : Buffer} :
    (node : Node) → node.walk d expand s b = .ok b' → Walked d [⟨level, s, node⟩] b b'
  | .literal text, h => by
    obtain rfl := Except.ok.inj h
    exact .leaf rfl (.push d b text)
  | .bind v, h => walked_bind h
  | .embedded v, h => walked_embedded hexpand h
  | .branch condition source yes no, h => by
    obtain ⟨holds, hcondition, h⟩ := Outcome.bind_eq_ok.1 h
    have hunfold : Pending.unfold d (some maxDepth) ⟨level, s, .branch condition source yes no⟩ =
        .ok (Pending.ofNodes level s (if holds then yes else no)) := by
      simp only [Pending.unfold, hcondition]
      rfl
    -- The side that the condition takes is met next.
    refine .unfold hunfold rfl ?_
    cases holds with
    | true => exact walked_of_walkAll hexpand yes h
    | false => exact walked_of_walkAll hexpand no h
  | .scope children, h => by
    obtain ⟨child, hchild, h⟩ := Outcome.bind_eq_ok.1 h
    obtain rfl := Except.ok.inj h
    exact .unfold rfl rfl (walked_of_walkAll hexpand children hchild).mergePruned
  | .loop path children, h => by
    obtain ⟨items, hitems, h⟩ := Outcome.bind_eq_ok.1 h
    have hunfold : Pending.unfold d (some maxDepth) ⟨level, s, .loop path children⟩ =
        .ok ((LoopFrame.ofItems items).flatMap fun frame =>
          Pending.ofNodes level (s.enter frame) children) := by
      simp only [Pending.unfold, hitems]
      rfl
    refine .unfold hunfold rfl ?_
    -- The rounds are met one after the other.
    refine Outcome.foldlM_flatMap (R := fun b parts b' => Walked d parts b b') (.nil d) .append
      ?_ h
    exact fun frame _ _ _ hround => walked_of_walkAll hexpand children hround
  | .connector text, h => by
    obtain rfl := Except.ok.inj h
    split
    · exact .leaf rfl (.push d b text)
    · exact .leaf rfl (.refl d b)
  | .first children, h | .last children, h => by
    rw [Node.walk] at h
    split_ifs at h with hround
    · refine .unfold ?_ rfl (walked_of_walkAll hexpand children h)
      simp only [Pending.unfold, hround, if_true]
    · obtain rfl := Except.ok.inj h
      refine .leaf ?_ (.refl d b)
      simp only [Pending.unfold, hround]
      rfl

/-- So does that of parts one after the other. -/
theorem walked_of_walkAll (hexpand : WalksAt d level expand) {s : Scope} {b b' : Buffer} :
    (nodes : List Node) → Node.walkAll d expand s nodes b = .ok b' →
      Walked d (Pending.ofNodes level s nodes) b b'
  | [], h => by
    obtain rfl := Except.ok.inj h
    exact .nil d b
  | node :: rest, h => by
    obtain ⟨next, hfirst, hrest⟩ := Outcome.bind_eq_ok.1 h
    exact (walked_of_walk hexpand node hfirst).append (walked_of_walkAll hexpand rest hrest)

end

/-- Templates in embedded values are walked at the levels that are left. -/
theorem walksAt_expansion (d : Dialect) :
    ∀ room level : Nat, level + room = maxDepth → WalksAt d level (expansion d room)
  | 0, _, _ => by
    -- Without room the expansion fails.
    intro v s value text b b' _ _ h
    exact nomatch h
  | room + 1, level, hlevel => by
    intro v s value text b b' hvalue hembedded h
    obtain ⟨t, hparse, h⟩ := Outcome.bind_eq_ok.1 h
    have hlimit : (some maxDepth).any (· ≤ level) = false := by
      rw [Option.any_some, decide_eq_false_iff_not]
      omega
    have hunfold : Pending.unfold d (some maxDepth) ⟨level, s, .embedded v⟩ =
        .ok (Pending.ofNodes (level + 1) s t.nodes) := by
      simp only [Pending.unfold, hvalue, Outcome.ok_bind, hembedded, hlimit, Bool.false_eq_true,
        if_false, hparse]
      rfl
    exact .unfold hunfold rfl
      (walked_of_walkAll (walksAt_expansion d room (level + 1) (by omega)) t.nodes h)

end Walking

/-- A template that is evaluated to a statement is walked to its end, and the binds of the statement
are those of the parts that are visited. -/
theorem Template.exists_visits {t : Template} {d : Dialect} {rootAlias : String}
    {parameters : Parameters} {statement : Statement}
    (h : t.evaluate d rootAlias parameters = .ok statement) :
    ∃ visited, Visits d (some maxDepth) (t.agenda rootAlias parameters) visited [] ∧
      statement.binds = visited.flatMap Pending.binds := by
  obtain ⟨b, hwalk, hb⟩ := Outcome.bind_eq_ok.1 h
  obtain rfl := Except.ok.inj hb
  obtain ⟨visited, hvisits, hcollects⟩ :=
    walked_of_walkAll (walksAt_expansion d maxDepth 0 (Nat.zero_add _)) t.nodes hwalk
  have hall := hvisits []
  rw [List.append_nil] at hall
  exact ⟨visited, hall, hcollects.binds.trans (List.nil_append _)⟩

end SqlTemplate
