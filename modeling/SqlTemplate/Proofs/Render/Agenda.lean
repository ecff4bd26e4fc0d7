import Mathlib.Logic.Relation
import SqlTemplate.Proofs.Render.Recalling
import SqlTemplate.Proofs.Render.Steps

/-!
# Walking a template part by part

The evaluation of a template walks its parts in the order of the text. What is left to walk at any
moment is a list of parts, each in its scope, and a step of the walk replaces the first of them by
the parts that take its place: the children of a block, once for each round of a loop, or the parts
of the template that an embedded value is (`Pending.unfold`, `Pending.gives_of_mem_unfold`). The
parts know how deep the template nests that they belong to, and the walk goes on without end if
values embed each other and no limit is set. With a limit it ends, whatever the values are
(`wellFounded_advances`). The evaluation follows the walk with its limit
(`Template.follows_evaluate`), and since there is at most one step to take, it comes to what the
walk ends with (`Template.evaluate_eq_error_iff`).
-/

namespace SqlTemplate

/-- A part of a template that is still to be walked. -/
structure Pending where
  /-- How deep the template nests that the part belongs to: 0 is the one that is evaluated. -/
  level : Nat
  /-- The scope of the part. -/
  scope : Scope
  /-- The part. -/
  node : Node

namespace Pending

/-- Parts that stand one after the other. -/
def ofNodes (level : Nat) (s : Scope) (nodes : List Node) : List Pending :=
  nodes.map (Pending.mk level s)

/-- The text of the template that the part embeds, if it embeds one: it is a variable that is
written into the statement, and its value is a template of its own. -/
def dynamic? (p : Pending) : Option String :=
  match p.node with
  | .embedded v =>
    match p.scope.resolve v.path with
    | .ok value => v.dynamicText? value
    | .error _ => none
  | _ => none

/-- The parts that take the place of this one. Those of an embedded template are a level deeper,
where the limit allows it. -/
def unfold (d : Dialect) (limit : Option Nat) (p : Pending) : Except RenderError (List Pending) :=
  match p.node with
  | .literal _ | .connector _ => .ok []
  | .bind v => do
    let value ← p.scope.valueOf v.path
    (v.pushBound d value {}).map fun _ => []
  | .embedded v => do
    let value ← p.scope.valueOf v.path
    match v.embedded? value with
    | none => (v.pushEmbedded d (fun _ => .ok) value {}).map fun _ => []
    | some text =>
      if limit.any (· ≤ p.level) then .error (.tooDeep v.path maxDepth)
      else
        ((Template.parse v.nullDisallowed text).mapError RenderError.parse).map fun t =>
          ofNodes (p.level + 1) p.scope t.nodes
  | .branch condition _ yes no =>
    ((p.scope.holds condition).mapError RenderError.condition).map fun holds =>
      ofNodes p.level p.scope (if holds then yes else no)
  | .scope children => .ok (ofNodes p.level p.scope children)
  | .loop path children =>
    (p.scope.loopItems path).map fun items =>
      (LoopFrame.ofItems items).flatMap fun frame => ofNodes p.level (p.scope.enter frame) children
  | .first children =>
    .ok (if p.scope.current?.any LoopFrame.isFirst then ofNodes p.level p.scope children else [])
  | .last children =>
    .ok (if p.scope.current?.any LoopFrame.isLast then ofNodes p.level p.scope children else [])

end Pending

/-- The parts that stand directly inside a part. -/
def Node.children : Node → List Node
  | .branch _ _ yes no => yes ++ no
  | .scope children | .loop _ children | .first children | .last children => children
  | _ => []

/-- What stands inside a part is smaller than the part. -/
theorem Node.sizeOf_lt_of_mem_children {node child : Node} (h : child ∈ node.children) :
    sizeOf child < sizeOf node := by
  cases node with
  | literal | bind | embedded | connector => exact absurd h List.not_mem_nil
  | branch condition source yes no =>
    simp only [branch.sizeOf_spec]
    obtain h | h := List.mem_append.1 h
    · have hless := List.sizeOf_lt_of_mem h
      omega
    · have hless := List.sizeOf_lt_of_mem h
      omega
  | scope children | loop _ children | first children | last children =>
    have hless : sizeOf child < sizeOf children := List.sizeOf_lt_of_mem h
    simp only [scope.sizeOf_spec, loop.sizeOf_spec, first.sizeOf_spec, last.sizeOf_spec]
    omega

/-- What is true of a part whenever it is of those that stand inside it is true of every part. -/
theorem Node.children_induction {P : Node → Prop}
    (inside : ∀ node, (∀ child ∈ node.children, P child) → P node) (node : Node) : P node :=
  inside node fun child hchild =>
    have := sizeOf_lt_of_mem_children hchild
    children_induction inside child
termination_by node

namespace Pending

/-- A part gives way to another one. -/
inductive Gives (limit : Option Nat) : Pending → Pending → Prop
  /-- To a part that stands inside it. -/
  | child {level : Nat} {s : Scope} {node child : Node} (h : child ∈ node.children) :
    Gives limit ⟨level, s, node⟩ ⟨level, s, child⟩
  /-- To a part inside a loop, for a round of this loop. -/
  | round {level : Nat} {s : Scope} {path : Path} {children : List Node} {items : List Value}
    {frame : LoopFrame} {child : Node} (hitems : s.resolve path = .ok (.list items))
    (hframe : frame ∈ LoopFrame.ofItems items) (h : child ∈ children) :
    Gives limit ⟨level, s, .loop path children⟩ ⟨level, s.enter frame, child⟩
  /-- To a part of the template that it embeds, where the limit allows it. -/
  | template {level : Nat} {s : Scope} {v : Variable} {text : String} {t : Template} {child : Node}
    (hlimit : limit.any (· ≤ level) = false) (hparse : Template.parse v.nullDisallowed text = .ok t)
    (h : child ∈ t.nodes) : Gives limit ⟨level, s, .embedded v⟩ ⟨level + 1, s, child⟩

/-- The parts that take the place of a part are those that it gives way to. -/
theorem gives_of_mem_unfold {d : Dialect} {limit : Option Nat} {p q : Pending}
    {parts : List Pending} (h : p.unfold d limit = .ok parts) (hq : q ∈ parts) :
    Gives limit p q := by
  obtain ⟨level, s, node⟩ := p
  -- One case for each kind of node: leaves give nothing, and containers give their children.
  cases node with
  | literal | connector =>
    obtain rfl := Except.ok.inj h
    exact absurd hq List.not_mem_nil
  | bind v =>
    obtain ⟨value, -, hpush⟩ := Outcome.bind_eq_ok.1 h
    obtain ⟨b, -, rfl⟩ := Outcome.map_eq_ok.1 hpush
    exact absurd hq List.not_mem_nil
  | embedded v =>
    obtain ⟨value, -, h⟩ := Outcome.bind_eq_ok.1 h
    split at h
    · obtain ⟨b, -, rfl⟩ := Outcome.map_eq_ok.1 h
      exact absurd hq List.not_mem_nil
    · split at h
      · cases h
      -- Below the limit, an embedded text gives the nodes of its tree.
      · next hlimit =>
        obtain ⟨t, hparse, rfl⟩ := Outcome.map_eq_ok.1 h
        obtain ⟨node, hnode, rfl⟩ := List.mem_map.1 hq
        exact .template (eq_false_of_ne_true hlimit) (Outcome.mapError_eq_ok.1 hparse) hnode
  | branch condition source yes no =>
    obtain ⟨holds, -, rfl⟩ := Outcome.map_eq_ok.1 h
    obtain ⟨node, hnode, rfl⟩ := List.mem_map.1 hq
    refine .child ?_
    cases holds with
    | true => exact List.mem_append_left no hnode
    | false => exact List.mem_append_right yes hnode
  | scope children =>
    obtain rfl := Except.ok.inj h
    obtain ⟨node, hnode, rfl⟩ := List.mem_map.1 hq
    exact .child hnode
  | loop path children =>
    obtain ⟨items, hitems, rfl⟩ := Outcome.map_eq_ok.1 h
    obtain ⟨frame, hframe, hq⟩ := List.mem_flatMap.1 hq
    obtain ⟨node, hnode, rfl⟩ := List.mem_map.1 hq
    rcases Scope.loopItems_eq_ok hitems with ⟨-, rfl⟩ | hresolve
    · exact absurd hframe List.not_mem_nil
    · exact .round hresolve hframe hnode
  | first children | last children =>
    obtain rfl := Except.ok.inj h
    split at hq
    · obtain ⟨node, hnode, rfl⟩ := List.mem_map.1 hq
      exact .child hnode
    · exact absurd hq List.not_mem_nil

end Pending

/-- One step of the walk: the first part that is left is replaced. -/
inductive Advances (d : Dialect) (limit : Option Nat) : List Pending → List Pending → Prop
  /-- By the parts that take its place. -/
  | unfold {p : Pending} {parts rest : List Pending} (h : p.unfold d limit = .ok parts) :
      Advances d limit (p :: rest) (parts ++ rest)

/-- Steps of the walk, one after the other. -/
abbrev Runs (d : Dialect) (limit : Option Nat) : List Pending → List Pending → Prop :=
  Relation.ReflTransGen (Advances d limit)

/-- The walk comes to a part that fails. -/
def Stops (d : Dialect) (limit : Option Nat) (start : List Pending) (e : RenderError) : Prop :=
  ∃ p rest, Runs d limit start (p :: rest) ∧ p.unfold d limit = .error e

variable {d : Dialect} {limit : Option Nat}

/-! ## There is one walk -/

/-- There is at most one step to take. -/
theorem Advances.rightUnique : Relator.RightUnique (Advances d limit) := by
  intro before after after' h h'
  cases h with
  | unfold h =>
    cases h' with
    | unfold h' => rw [Except.ok.inj (h.symm.trans h')]

/-- Nothing is left to do at the end. -/
theorem not_advances_nil (after : List Pending) : ¬Advances d limit [] after :=
  nofun

/-- Nor where a part fails. -/
theorem not_advances_of_error {p : Pending} {rest : List Pending} {e : RenderError}
    (h : p.unfold d limit = .error e) (after : List Pending) :
    ¬Advances d limit (p :: rest) after := by
  rintro ⟨hok⟩
  rw [h] at hok
  cases hok

/-- The walk ends in one way. -/
theorem Runs.end_unique {start last last' : List Pending} (h : Runs d limit start last)
    (h' : Runs d limit start last') (hlast : ∀ after, ¬Advances d limit last after)
    (hlast' : ∀ after, ¬Advances d limit last' after) : last = last' := by
  have hstay {one other : List Pending} (hone : ∀ after, ¬Advances d limit one after)
      (hrun : Runs d limit one other) : one = other := by
    obtain heq | ⟨after, hstep, -⟩ := hrun.cases_head
    · exact heq
    · exact absurd hstep (hone after)
  obtain hrun | hrun := Relation.ReflTransGen.total_of_right_unique Advances.rightUnique h h'
  · exact hstay hlast hrun
  · exact (hstay hlast' hrun).symm

/-- The walk stops with one fault. -/
theorem Stops.unique {start : List Pending} {e e' : RenderError} (h : Stops d limit start e)
    (h' : Stops d limit start e') : e = e' := by
  obtain ⟨p, rest, hrun, herror⟩ := h
  obtain ⟨p', rest', hrun', herror'⟩ := h'
  obtain ⟨rfl, -⟩ := List.cons.inj (hrun.end_unique hrun' (not_advances_of_error herror)
    (not_advances_of_error herror'))
  exact Except.error.inj (herror.symm.trans herror')

/-- The walk does not stop if it comes to the end. -/
theorem Stops.not_runs_nil {start : List Pending} {e : RenderError} (h : Stops d limit start e) :
    ¬Runs d limit start [] := by
  intro hend
  obtain ⟨p, rest, hrun, herror⟩ := h
  cases hrun.end_unique hend (not_advances_of_error herror) not_advances_nil

/-! ## The walk ends -/

section Termination

/-- All that is left can be walked in finitely many steps. -/
abbrev Ends (d : Dialect) (limit : Option Nat) : List Pending → Prop :=
  Acc fun after before => Advances d limit before after

/-- The part can be walked in finitely many steps, if what follows it can. -/
def Finite (d : Dialect) (limit : Option Nat) (p : Pending) : Prop :=
  ∀ rest, Ends d limit rest → Ends d limit (p :: rest)

/-- Where nothing is left, there is nothing to walk. -/
theorem ends_nil : Ends d limit [] :=
  ⟨_, fun after h => absurd h (not_advances_nil after)⟩

/-- Parts that can be walked, with others behind them that can, can be walked one after the other.
-/
theorem ends_append {parts rest : List Pending} (h : ∀ p ∈ parts, Finite d limit p)
    (hrest : Ends d limit rest) : Ends d limit (parts ++ rest) := by
  induction parts with
  | nil => exact hrest
  | cons p parts ih =>
    exact h p List.mem_cons_self _ (ih fun q hq => h q (List.mem_cons_of_mem _ hq))

/-- A part can be walked if the parts that take its place can. -/
theorem finite_of_unfold {p : Pending}
    (h : ∀ parts, p.unfold d limit = .ok parts → ∀ q ∈ parts, Finite d limit q) :
    Finite d limit p := by
  intro rest hrest
  refine ⟨_, fun after hstep => ?_⟩
  cases hstep with
  | unfold hok => exact ends_append (h _ hok) hrest

/-- A part can be walked if the parts of deeper templates can. -/
theorem finite_node {level : Nat}
    (hdeeper : limit.any (· ≤ level) = false → ∀ s node, Finite d limit ⟨level + 1, s, node⟩)
    (node : Node) : ∀ s : Scope, Finite d limit ⟨level, s, node⟩ := by
  induction node using Node.children_induction with
  | inside node ih =>
    refine fun s => finite_of_unfold fun parts hparts q hq => ?_
    cases Pending.gives_of_mem_unfold hparts hq with
    | child hchild => exact ih _ hchild s
    | round _ _ hchild => exact ih _ hchild _
    | template hlimit _ _ => exact hdeeper hlimit s _

/-- With a limit every part can be walked: the levels below the limit are counted down. -/
theorem finite_of_limit (n : Nat) (p : Pending) : Finite d (some n) p := by
  obtain ⟨level, s, node⟩ := p
  have hlevel : ∀ room level, n ≤ level + room → ∀ s node, Finite d (some n) ⟨level, s, node⟩ := by
    intro room
    induction room with
    | zero =>
      intro level hroom s node
      refine finite_node (fun hlimit => ?_) node s
      simp only [Option.any_some, decide_eq_false_iff_not] at hlimit
      omega
    | succ room ih =>
      intro level hroom s node
      exact finite_node (fun _ => ih (level + 1) (by omega)) node s
  exact hlevel n level (by omega) s node

/-- With a limit there is no walk without end. -/
theorem wellFounded_advances (d : Dialect) (n : Nat) :
    WellFounded fun after before => Advances d (some n) before after := by
  refine ⟨fun parts => ?_⟩
  have hall := ends_append (fun p (_ : p ∈ parts) => finite_of_limit (d := d) n p) ends_nil
  rwa [List.append_nil] at hall

end Termination

/-! ## The evaluation follows the walk -/

/-- A computation comes to what the walk of the first parts comes to: if it succeeds, then the walk
gets to the parts behind them, and if it fails, then the walk stops with this fault. -/
def Follows {α : Type} (d : Dialect) (before after : List Pending) : Except RenderError α → Prop
  | .ok _ => Runs d (some maxDepth) before after
  | .error e => Stops d (some maxDepth) before e

section Following

variable {α β : Type} {before middle after rest : List Pending}

/-- A walk that stops later on stops. -/
theorem Stops.head (hrun : Runs d limit before middle) {e : RenderError}
    (h : Stops d limit middle e) : Stops d limit before e := by
  obtain ⟨p, rest, hto, herror⟩ := h
  exact ⟨p, rest, hrun.trans hto, herror⟩

/-- Two computations one after the other follow two walks one after the other. -/
theorem Follows.bind {x : Except RenderError α} {f : α → Except RenderError β}
    (hx : Follows d before middle x) (hf : ∀ a, Follows d middle after (f a)) :
    Follows d before after (x >>= f) := by
  cases x with
  | error e => exact hx
  | ok a =>
    have hrest := hf a
    show Follows d before after (f a)
    cases hfa : f a with
    | ok b =>
      rw [hfa] at hrest
      exact Relation.ReflTransGen.trans hx hrest
    | error e =>
      rw [hfa] at hrest
      exact Stops.head hx hrest

/-- A computation that does nothing follows a walk without steps. -/
theorem follows_refl (a : α) : Follows d after after (.ok a : Except RenderError α) :=
  Relation.ReflTransGen.refl

/-- A computation follows the walk of a part if it fails as the part does, and follows the walk of
the parts that take its place otherwise. -/
theorem follows_cons {γ : Type} {p : Pending} {x : Except RenderError γ} {parts : γ → List Pending}
    (hunfold : p.unfold d (some maxDepth) = x.map parts) {f : γ → Except RenderError α}
    (hf : ∀ c, Follows d (parts c ++ rest) rest (f c)) :
    Follows d (p :: rest) rest (x >>= f) := by
  cases x with
  | error e => exact ⟨p, rest, .refl, hunfold⟩
  | ok c =>
    have hstep : Runs d (some maxDepth) (p :: rest) (parts c ++ rest) := .single ⟨hunfold⟩
    have hrest := hf c
    show Follows d (p :: rest) rest (f c)
    cases hfc : f c with
    | ok b =>
      rw [hfc] at hrest
      exact hstep.trans hrest
    | error e =>
      rw [hfc] at hrest
      exact Stops.head hstep hrest

/-- Rounds one after the other follow the walk of their parts. -/
theorem follows_foldlM {γ : Type} {parts : γ → List Pending} {f : β → γ → Except RenderError β}
    (h : ∀ c b rest, Follows d (parts c ++ rest) rest (f b c)) (cs : List γ) (b : β)
    (rest : List Pending) : Follows d (cs.flatMap parts ++ rest) rest (cs.foldlM f b) := by
  induction cs generalizing b with
  | nil => exact follows_refl b
  | cons c cs ih =>
    rw [List.flatMap_cons, List.append_assoc, List.foldlM_cons]
    exact (h c b _).bind ih

end Following

/-! ## What a variable writes does not decide whether it can be written -/

namespace Variable

variable {γ : Type} (v : Variable) (d : Dialect)

/-- Whether the elements of a list can be bound does not depend on what has been written before. -/
theorem pushItems_map (c : γ) (index : Nat) (items : List Value) (b b' : Buffer) :
    (v.pushItems d index items b).map (fun _ => c) =
      (v.pushItems d index items b').map fun _ => c := by
  induction items generalizing index b b' with
  | nil => rfl
  | cons item rest ih =>
    simp only [pushItems]
    split
    · rfl
    · exact ih _ _ _

/-- A variable is bound behind any text if it is behind none. -/
theorem pushBound_map (c : γ) (value : Value) (b b' : Buffer) :
    (v.pushBound d value b).map (fun _ => c) = (v.pushBound d value b').map fun _ => c := by
  unfold pushBound
  cases v.demand value with
  | error e => rfl
  | ok demand =>
    cases demand with
    | nothing | scalar => rfl
    | items items =>
      -- The faults are found before anything is written to the buffer.
      simp only [Outcome.ok_bind]
      cases v.checkSize d items.length with
      | error e => rfl
      | ok =>
        simp only [Outcome.ok_bind]
        split
        · rfl
        · rw [Outcome.map_image, Outcome.map_image]
          exact pushItems_map v d c 0 items _ _

/-- So is one that is embedded by its text. -/
theorem pushEmbedded_map (c : γ) (value : Value) (b b' : Buffer) :
    (v.pushEmbedded d (fun _ => .ok) value b).map (fun _ => c) =
      (v.pushEmbedded d (fun _ => .ok) value b').map fun _ => c := by
  unfold pushEmbedded
  cases v.demand value with
  | error e => rfl
  | ok demand =>
    cases demand with
    | nothing => rfl
    | scalar value =>
      simp only [Outcome.ok_bind]
      split
      · rfl
      · rw [Outcome.map_image, Outcome.map_image]
    | items items =>
      -- Here too the size of the list is checked before the buffer is touched.
      simp only [Outcome.ok_bind]
      cases v.checkSize d items.length with
      | error e => rfl
      | ok =>
        simp only [Outcome.ok_bind]
        split
        · rfl
        · rw [Outcome.map_image, Outcome.map_image]

end Variable

/-! ## The evaluation follows the walk, part by part -/

/-- How values are written that are templates of their own follows the walk at a level. -/
def FollowsAt (d : Dialect) (level : Nat) (expand : Expansion) : Prop :=
  ∀ (v : Variable) (s : Scope) (value : Value) (text : String) (b : Buffer) (rest : List Pending),
    s.valueOf v.path = .ok value → v.embedded? value = some text →
    Follows d (⟨level, s, .embedded v⟩ :: rest) rest (expand v s text b)

/-- A part that no part takes the place of is walked in one step. -/
theorem follows_leaf {p : Pending} {rest : List Pending} {α : Type} {x : Except RenderError α}
    (hunfold : p.unfold d (some maxDepth) = x.map fun _ => []) : Follows d (p :: rest) rest x := by
  have hx : Follows d (p :: rest) rest (x >>= pure) := follows_cons hunfold fun a => follows_refl a
  rwa [bind_pure] at hx

/-- A part that stands in some rounds only is replaced by its children or by nothing. -/
theorem follows_choice {p : Pending} {parts rest : List Pending} {inside : Bool} {α : Type}
    {x : Except RenderError α} {a : α}
    (hunfold : p.unfold d (some maxDepth) = .ok (if inside then parts else []))
    (hx : Follows d (parts ++ rest) rest x) :
    Follows d (p :: rest) rest (if inside then x else .ok a) := by
  have hparts : p.unfold d (some maxDepth) =
      (Except.ok ()).map fun _ => if inside then parts else [] := hunfold
  have hrest : Follows d ((if inside then parts else []) ++ rest) rest
      (if inside then x else .ok a) := by
    cases inside with
    | true => exact hx
    | false => exact follows_refl a
  exact follows_cons hparts fun _ => hrest

mutual

/-- The evaluation of a part follows its walk. -/
theorem follows_walk {level : Nat} {expand : Expansion} (hexpand : FollowsAt d level expand) :
    ∀ (node : Node) (s : Scope) (b : Buffer) (rest : List Pending),
      Follows d (⟨level, s, node⟩ :: rest) rest (node.walk d expand s b)
  | .literal text, s, b, rest => follows_leaf rfl
  | .connector text, s, b, rest => follows_leaf rfl
  | .bind v, s, b, rest => by
    refine follows_leaf ?_
    show (s.valueOf v.path >>= fun value => (v.pushBound d value {}).map _) =
      (s.valueOf v.path >>= fun value => v.pushBound d value b).map _
    cases s.valueOf v.path with
    | error e => rfl
    | ok value => exact v.pushBound_map d [] value {} b
  | .embedded v, s, b, rest => by
    have hpush (value : Value) := v.pushEmbedded_eq d (expand v s) value b
    show Follows d _ rest (s.valueOf v.path >>= fun value => v.pushEmbedded d (expand v s) value b)
    cases hvalue : s.valueOf v.path with
    | error e =>
      refine follows_leaf (x := .error e) ?_
      show s.valueOf v.path >>= _ = _
      rw [hvalue]
      rfl
    | ok value =>
      show Follows d _ rest (v.pushEmbedded d (expand v s) value b)
      rw [hpush]
      -- A dynamic text is walked by its own expansion; other values are written at once.
      cases hembedded : v.embedded? value with
      | some text => exact hexpand v s value text b rest hvalue hembedded
      | none =>
        refine follows_leaf ?_
        show (s.valueOf v.path >>= fun value => match v.embedded? value with
          | none => _
          | some text => _) = _
        rw [hvalue]
        show (match v.embedded? value with
          | none => _
          | some text => _) = _
        rw [hembedded]
        exact v.pushEmbedded_map d [] value {} b
  | .branch condition source yes no, s, b, rest =>
    follows_cons rfl fun holds => by
      cases holds with
      | true => exact follows_walkAll hexpand yes s b rest
      | false => exact follows_walkAll hexpand no s b rest
  | .scope children, s, b, rest => by
    -- The children are walked in a buffer of their own, which is merged when they are done.
    have hchildren := follows_walkAll hexpand children s b.fork rest
    have hparts : Pending.unfold d (some maxDepth) ⟨level, s, .scope children⟩ =
        (Except.ok ()).map fun _ => Pending.ofNodes level s children := rfl
    exact follows_cons hparts fun _ =>
      hchildren.bind fun inner => follows_refl (b.mergePruned inner)
  | .loop path children, s, b, rest =>
    follows_cons rfl fun items =>
      follows_foldlM (fun frame b rest => follows_walkAll hexpand children (s.enter frame) b rest)
        (LoopFrame.ofItems items) b rest
  | .first children, s, b, rest | .last children, s, b, rest =>
    follows_choice rfl (follows_walkAll hexpand children s b rest)

/-- So does that of parts one after the other. -/
theorem follows_walkAll {level : Nat} {expand : Expansion} (hexpand : FollowsAt d level expand) :
    ∀ (nodes : List Node) (s : Scope) (b : Buffer) (rest : List Pending),
      Follows d (Pending.ofNodes level s nodes ++ rest) rest (Node.walkAll d expand s nodes b)
  | [], _, b, _ => follows_refl b
  | node :: nodes, s, b, rest =>
    (follows_walk hexpand node s b _).bind fun b => follows_walkAll hexpand nodes s b rest

end

/-- Templates in embedded values are walked at the levels that are left. -/
theorem followsAt_expansion (d : Dialect) :
    ∀ room level : Nat, level + room = maxDepth → FollowsAt d level (expansion d room)
  | 0, level, hlevel => by
    intro v s value text b rest hvalue hembedded
    -- No room is left: the level is the limit.
    have hlimit : (some maxDepth).any (· ≤ level) = true := by
      rw [Option.any_some, decide_eq_true_iff]
      omega
    refine ⟨_, rest, .refl, ?_⟩
    simp only [Pending.unfold, hvalue, Outcome.ok_bind, hembedded, hlimit, if_true]
  | room + 1, level, hlevel => by
    intro v s value text b rest hvalue hembedded
    -- The text is parsed, and its nodes are walked one level deeper with one room less.
    have hlimit : (some maxDepth).any (· ≤ level) = false := by
      rw [Option.any_some, decide_eq_false_iff_not]
      omega
    have hparts : Pending.unfold d (some maxDepth) ⟨level, s, .embedded v⟩ =
        ((Template.parse v.nullDisallowed text).mapError RenderError.parse).map fun t =>
          Pending.ofNodes (level + 1) s t.nodes := by
      simp only [Pending.unfold, hvalue, Outcome.ok_bind, hembedded, hlimit, Bool.false_eq_true,
        if_false]
    exact follows_cons hparts fun t =>
      follows_walkAll (followsAt_expansion d room (level + 1) (by omega)) t.nodes s b rest

/-! ## Templates -/

namespace Template

variable (t : Template) (d : Dialect) (rootAlias : String) (parameters : Parameters)

/-- What is to be walked of a template. -/
def agenda : List Pending :=
  Pending.ofNodes 0 ⟨rootAlias, parameters, []⟩ t.nodes

/-- The evaluation of a template follows its walk. -/
theorem follows_evaluate :
    Follows d (t.agenda rootAlias parameters) [] (t.evaluate d rootAlias parameters) := by
  have hwalk := follows_walkAll (followsAt_expansion d maxDepth 0 (Nat.zero_add _)) t.nodes
    ⟨rootAlias, parameters, []⟩ {} []
  rw [List.append_nil] at hwalk
  exact hwalk.bind fun b => follows_refl b.toStatement

/-- A template has a statement exactly if its walk gets to the end. -/
theorem exists_evaluate_iff :
    (∃ statement, t.evaluate d rootAlias parameters = .ok statement) ↔
      Runs d (some maxDepth) (t.agenda rootAlias parameters) [] := by
  have hfollows := t.follows_evaluate d rootAlias parameters
  cases h : t.evaluate d rootAlias parameters with
  | ok statement =>
    rw [h] at hfollows
    exact iff_of_true ⟨statement, rfl⟩ hfollows
  | error e =>
    rw [h] at hfollows
    exact iff_of_false nofun (Stops.not_runs_nil hfollows)

/-- It has a fault exactly if its walk stops with it. -/
theorem evaluate_eq_error_iff (e : RenderError) :
    t.evaluate d rootAlias parameters = .error e ↔
      Stops d (some maxDepth) (t.agenda rootAlias parameters) e := by
  have hfollows := t.follows_evaluate d rootAlias parameters
  cases h : t.evaluate d rootAlias parameters with
  | ok statement =>
    rw [h] at hfollows
    exact iff_of_false nofun fun hstops => Stops.not_runs_nil hstops hfollows
  | error e' =>
    rw [h] at hfollows
    constructor
    · rintro ⟨⟩
      exact hfollows
    · exact fun hstops => congrArg Except.error (Stops.unique hfollows hstops)

end Template

end SqlTemplate
