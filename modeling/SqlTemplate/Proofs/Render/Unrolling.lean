import SqlTemplate.Proofs.Render.Steps
import SqlTemplate.Proofs.Template.StandingAlone

/-!
# Loops round by round

A loop is its body once for each element, where the parts that ask for the round are settled
beforehand: a connector is plain text in every round but the first, and the parts for the first and
the last round are there or not (`Node.inRound`). What is left of the body asks for no round, and
all that it takes from the scope is the element (`Scope.SameValues`). So it is written in the same
way wherever the round stands, and a loop is these bodies one after the other
(`Node.walk_loop_unrolled`).

Loops inside the body have rounds of their own and are left as they are. Behind such a loop the
round around it counts again.
-/

namespace SqlTemplate

/-! ## Scopes with the same values -/

/-- Every path has the same value in both scopes. They may differ in where the innermost round
stands and in the rounds around it. -/
structure Scope.SameValues (s t : Scope) : Prop where
  /-- The alias is the same. -/
  rootAlias : s.rootAlias = t.rootAlias
  /-- The parameter object is the same. -/
  parameters : s.parameters = t.parameters
  /-- The loop variable stands for the same element. -/
  element : s.current?.map LoopFrame.element = t.current?.map LoopFrame.element

namespace Scope.SameValues

variable {s t : Scope}

/-- A scope has its own values. -/
theorem refl (s : Scope) : s.SameValues s :=
  ⟨rfl, rfl, rfl⟩

/-- Rounds with the same element may stand in different places. -/
theorem enter (h : s.SameValues t) {frame other : LoopFrame}
    (helement : frame.element = other.element) : (s.enter frame).SameValues (t.enter other) :=
  ⟨h.rootAlias, h.parameters, congrArg some helement⟩

/-- Paths lead to the same values. -/
theorem resolve (h : s.SameValues t) (path : Path) : s.resolve path = t.resolve path := by
  unfold Scope.resolve Scope.rootValue?
  rw [h.rootAlias, h.parameters, h.element]

/-- So they do as a step of the evaluation asks for them. -/
theorem valueOf (h : s.SameValues t) (path : Path) : s.valueOf path = t.valueOf path := by
  rw [Scope.valueOf, Scope.valueOf, h.resolve]

/-- Loops run over the same elements. -/
theorem loopItems (h : s.SameValues t) (path : Path) : s.loopItems path = t.loopItems path := by
  rw [Scope.loopItems, Scope.loopItems, h.valueOf]

/-- Operands have the same values. -/
theorem operandValue (h : s.SameValues t) (operand : Operand) :
    s.operandValue operand = t.operandValue operand := by
  cases operand with
  | literal l => rfl
  | path p => exact h.resolve p
  | method receiver m => rw [Scope.operandValue, Scope.operandValue, h.resolve]

/-- So do the two sides of a comparison. -/
theorem operandValues (h : s.SameValues t) (left right : Operand) :
    s.operandValues left right = t.operandValues left right := by
  cases left <;> cases right <;> simp only [Scope.operandValues, h.operandValue]

/-- A condition asks for values only. -/
theorem holds (h : s.SameValues t) (condition : Expr) : s.holds condition = t.holds condition := by
  induction condition with
  | compare left op right => rw [Scope.holds, Scope.holds, h.operandValues]
  | and left right ihl ihr | or left right ihl ihr =>
    rw [Scope.holds, Scope.holds, ihl, ihr]
  | not inner ih => rw [Scope.holds, Scope.holds, ih]
  | operand o => rw [Scope.holds, Scope.holds, h.operandValue]

end Scope.SameValues

/-- Embedded templates take nothing but values from the scope. -/
def Expansion.AsksValues (expand : Expansion) : Prop :=
  ∀ ⦃s t : Scope⦄, s.SameValues t → ∀ (v : Variable) (text : String),
    expand v s text = expand v t text

variable {d : Dialect} {expand : Expansion} {s t : Scope}

namespace Node

mutual

/-- In scopes with the same values a part is written alike, unless it asks for the round and the
rounds differ. -/
theorem walk_eq_of_sameValues (hexpand : expand.AsksValues) {s t : Scope} (h : s.SameValues t) :
    (node : Node) → (node.standsAlone = false → s.current? = t.current?) →
    node.walk d expand s = node.walk d expand t
  | .literal _, _ => rfl
  | .bind v, _ => by
    funext b
    rw [walk, walk, h.valueOf]
  | .embedded v, _ => by
    funext b
    rw [walk, walk, h.valueOf, funext (hexpand h v)]
  | .branch condition source yes no, hround => by
    funext b
    have hyes := walkAll_eq_of_sameValues hexpand h yes fun halone =>
      hround (by rw [standsAlone, halone, Bool.false_and])
    have hno := walkAll_eq_of_sameValues hexpand h no fun halone =>
      hround (by rw [standsAlone, halone, Bool.and_false])
    rw [walk, walk, h.holds, hyes, hno]
  | .scope children, hround => by
    funext b
    rw [walk, walk, walkAll_eq_of_sameValues hexpand h children hround]
  | .loop path children, _ => by
    -- Inside, both walks are in the same round of this loop.
    funext b
    have hbody : ∀ frame, walkAll d expand (s.enter frame) children =
        walkAll d expand (t.enter frame) children := fun frame =>
      walkAll_eq_of_sameValues hexpand (h.enter rfl) children fun _ => rfl
    simp only [walk, h.loopItems, hbody]
  | .connector text, hround => by
    funext b
    rw [walk, walk, hround rfl]
  | .first children, hround | .last children, hround => by
    funext b
    have hcurrent := hround rfl
    rw [walk, walk, hcurrent, walkAll_eq_of_sameValues hexpand h children fun _ => hcurrent]

/-- So are parts one after the other. -/
theorem walkAll_eq_of_sameValues (hexpand : expand.AsksValues) {s t : Scope} (h : s.SameValues t) :
    (nodes : List Node) → (standAlone nodes = false → s.current? = t.current?) →
    walkAll d expand s nodes = walkAll d expand t nodes
  | [], _ => rfl
  | node :: rest, hround => by
    funext b
    have hnode := walk_eq_of_sameValues hexpand h node fun halone =>
      hround (by rw [standAlone, halone, Bool.false_and])
    have hrest := walkAll_eq_of_sameValues hexpand h rest fun halone =>
      hround (by rw [standAlone, halone, Bool.and_false])
    rw [walkAll, walkAll, hnode, hrest]

end

end Node

/-- The parts of an embedded template stand alone at its top level, so they ask for no round outside
it. -/
theorem asksValues_expansion (d : Dialect) (room : Nat) : (expansion d room).AsksValues := by
  induction room with
  | zero => exact fun _ _ _ _ _ => rfl
  | succ room ih =>
    intro s t h v text
    funext b
    unfold expansion
    cases hparse : Template.parse v.nullDisallowed text with
    | error e => rfl
    | ok template =>
      have halone := Template.standAlone_of_parse hparse
      show Node.walkAll d (expansion d room) s template.nodes b =
        Node.walkAll d (expansion d room) t template.nodes b
      rw [Node.walkAll_eq_of_sameValues ih h template.nodes fun hnot => by simp [halone] at hnot]

/-! ## The body in one round -/

mutual

/-- What is left of a part in a round that is the first or the last one or not. -/
def Node.inRound (isFirst isLast : Bool) : Node → List Node
  | .literal text => [.literal text]
  | .bind v => [.bind v]
  | .embedded v => [.embedded v]
  | .branch condition source yes no =>
    [.branch condition source (inRoundAll isFirst isLast yes) (inRoundAll isFirst isLast no)]
  | .scope children => [.scope (inRoundAll isFirst isLast children)]
  -- The parts in a loop ask for the rounds of that loop.
  | .loop path children => [.loop path children]
  | .connector text => if isFirst then [] else [.literal text]
  | .first children => if isFirst then inRoundAll isFirst isLast children else []
  | .last children => if isLast then inRoundAll isFirst isLast children else []

/-- What is left of the parts. -/
def Node.inRoundAll (isFirst isLast : Bool) : List Node → List Node
  | [] => []
  | node :: rest => node.inRound isFirst isLast ++ inRoundAll isFirst isLast rest

end

/-- The round of a loop over `count` elements that comes to an element and its index: what is left
of the body, with the loop variable for the element. Where the innermost round of the scope stands
is not said by this: it may be anywhere. -/
def Node.round (d : Dialect) (expand : Expansion) (s : Scope) (position : Nat × Nat) (count : Nat)
    (children : List Node) (b : Buffer) (item : Value × Nat) : Except RenderError Buffer :=
  Node.walkAll d expand (s.enter ⟨item.1, position.1, position.2⟩)
    (inRoundAll (item.2 == 0) (item.2 + 1 == count) children) b

namespace Node

mutual

/-- What is left of a part stands alone. -/
theorem standAlone_inRound (isFirst isLast : Bool) : (node : Node) →
    standAlone (node.inRound isFirst isLast) = true
  | .literal _ | .bind _ | .embedded _ | .loop _ _ => rfl
  | .branch _ _ yes no => by
    simp only [inRound, standAlone, standsAlone, standAlone_inRoundAll isFirst isLast yes,
      standAlone_inRoundAll isFirst isLast no, Bool.and_self]
  | .scope children => by
    simp only [inRound, standAlone, standsAlone, standAlone_inRoundAll isFirst isLast children,
      Bool.and_self]
  | .connector _ => by
    -- A connector has become a text, or is gone.
    rw [inRound]
    split_ifs <;> rfl
  | .first children | .last children => by
    rw [inRound]
    split_ifs
    · exact standAlone_inRoundAll isFirst isLast children
    · rfl

/-- What is left of a body stands alone. -/
theorem standAlone_inRoundAll (isFirst isLast : Bool) : (nodes : List Node) →
    standAlone (inRoundAll isFirst isLast nodes) = true
  | [] => rfl
  | node :: rest => by
    rw [inRoundAll, standAlone_append, standAlone_inRound isFirst isLast node,
      standAlone_inRoundAll isFirst isLast rest, Bool.and_self]

end

mutual

/-- In a round, a part is written like what is left of it, wherever that round stands. -/
theorem walk_inRound (hexpand : expand.AsksValues) (h : s.SameValues t) {frame : LoopFrame}
    (hframe : s.current? = some frame) : (node : Node) → (b : Buffer) →
    node.walk d expand s b = walkAll d expand t (node.inRound frame.isFirst frame.isLast) b
  | .literal _, _ | .bind _, _ | .embedded _, _ | .loop _ _, _ => by
    rw [inRound, walkAll_singleton]
    -- These nodes do not ask for the position, and the values of the scopes are the same.
    refine congrFun (walk_eq_of_sameValues hexpand h _ ?_) _
    exact nofun
  | .branch condition source yes no, b => by
    rw [inRound, walkAll_singleton, walk, walk, h.holds, walkAll_inRound hexpand h hframe yes b,
      walkAll_inRound hexpand h hframe no b]
  | .scope children, b => by
    rw [inRound, walkAll_singleton, walk, walk, walkAll_inRound hexpand h hframe children b.fork]
  | .connector text, b => by
    rw [inRound, walk, hframe, Option.any_some]
    cases frame.isFirst with
    | true => rfl
    | false => exact (walkAll_singleton d expand t (.literal text) b).symm
  | .first children, b | .last children, b => by
    rw [inRound, walk, hframe, Option.any_some]
    split_ifs
    · exact walkAll_inRound hexpand h hframe children b
    · rfl

/-- In a round, a body is written like what is left of it, wherever that round stands. -/
theorem walkAll_inRound (hexpand : expand.AsksValues) (h : s.SameValues t) {frame : LoopFrame}
    (hframe : s.current? = some frame) : (nodes : List Node) → (b : Buffer) →
    walkAll d expand s nodes b = walkAll d expand t (inRoundAll frame.isFirst frame.isLast nodes) b
  | [], _ => rfl
  | node :: rest, b => by
    rw [inRoundAll, walkAll_append, walkAll, walk_inRound hexpand h hframe node b]
    exact bind_congr fun next => walkAll_inRound hexpand h hframe rest next

end

/-- A loop over a list is its rounds one after the other. -/
theorem walk_loop_eq_rounds (hexpand : expand.AsksValues) {path : Path} {items : List Value}
    (hitems : s.resolve path = .ok (.list items)) (position : Nat × Nat) (children : List Node)
    (b : Buffer) : (Node.loop path children).walk d expand s b =
      items.zipIdx.foldlM (round d expand s position items.length children) b := by
  have hloop : s.loopItems path = .ok items := by
    rw [Scope.loopItems, Scope.valueOf, hitems]
    rfl
  rw [walk, hloop]
  show (LoopFrame.ofItems items).foldlM _ b = _
  rw [LoopFrame.ofItems, List.foldlM_map]
  congr 1
  funext b ⟨element, index⟩
  have hvalues : (s.enter ⟨element, index, items.length⟩).SameValues
      (s.enter ⟨element, position.1, position.2⟩) := (Scope.SameValues.refl s).enter rfl
  exact walkAll_inRound hexpand hvalues rfl children b

/-- A loop is its rounds one after the other, each of them the body with the parts that ask for the
round settled and with the loop variable for the element; nothing in there asks for the round any
more. Null and the empty list have no rounds, the first round with a fault ends the loop with it,
and behind the loop the round around it counts again, with its own element. -/
theorem walk_loop_unrolled (d : Dialect) (room : Nat) (s : Scope) (position : Nat × Nat)
    (path : Path) (children : List Node) :
    (∀ isFirst isLast, standAlone (inRoundAll isFirst isLast children) = true) ∧
    (∀ items b, s.resolve path = .ok (.list items) →
      (Node.loop path children).walk d (expansion d room) s b =
        items.zipIdx.foldlM (round d (expansion d room) s position items.length children) b) ∧
    (∀ b, s.resolve path = .ok .null ∨ s.resolve path = .ok (.list []) →
      (Node.loop path children).walk d (expansion d room) s b = .ok b) ∧
    (∀ before item after items b mid e, items = before ++ item :: after →
      s.resolve path = .ok (.list items) →
      before.zipIdx.foldlM (round d (expansion d room) s position items.length children) b =
        .ok mid →
      round d (expansion d room) s position items.length children mid (item, before.length) =
        .error e →
      (Node.loop path children).walk d (expansion d room) s b = .error e) ∧
    ∀ frame rest b,
      walkAll d (expansion d room) (s.enter frame) (.loop path children :: rest) b =
        (Node.loop path children).walk d (expansion d room) (s.enter frame) b >>=
          walkAll d (expansion d room) (s.enter ⟨frame.element, position.1, position.2⟩)
            (inRoundAll frame.isFirst frame.isLast rest) := by
  have hexpand := asksValues_expansion d room
  refine ⟨fun _ _ => standAlone_inRoundAll .., fun items b hitems => ?_, ?_, ?_, ?_⟩
  · exact walk_loop_eq_rounds hexpand hitems position children b
  · rintro b (hnull | hempty)
    · rw [walk, Scope.loopItems, Scope.valueOf, hnull]
      rfl
    · exact walk_loop_eq_rounds hexpand hempty position children b
  · rintro before item after items b mid e rfl hitems hbefore hround
    -- The rounds before have led to the middle buffer, where the next one fails.
    rw [walk_loop_eq_rounds hexpand hitems position children b, List.zipIdx_append,
      List.foldlM_append, hbefore, Nat.zero_add]
    show (round d (expansion d room) s position _ children mid (item, before.length) >>= _) = _
    rw [hround]
    rfl
  · intro frame rest b
    -- Behind the inner loop the enclosing round has its own position again.
    have hvalues : (s.enter frame).SameValues (s.enter ⟨frame.element, position.1, position.2⟩) :=
      (Scope.SameValues.refl s).enter rfl
    exact bind_congr fun next => walkAll_inRound hexpand hvalues rfl rest next

/-- A loop over lists with a loop over the elements of each in its body. The connector and the
bracket behind the inner loop belong to the outer one. A list where a variable is to be bound is the
fault of the loop. -/
theorem walk_loop_unrolled_nested :
    let d : Dialect := { kind := .postgres }
    let rows : List Value := [.list [.integer 1, .integer 2], .list [.integer 3]]
    let s : Scope := ⟨"pmb", { properties := [("none", .null), ("rows", .list rows)] }, []⟩
    let current : Variable := ⟨⟨loopVariable, []⟩, {}, false⟩
    let body : List Node := [.connector ", ", .first [.literal "["],
      .loop current.path [.first [.literal "("], .connector "|", .bind current], .literal ")",
      .last [.literal "]"]]
    (Node.loop ⟨"rows", []⟩ body).walk d (expansion d 8) s {} =
        rows.zipIdx.foldlM (round d (expansion d 8) s (5, 7) 2 body) {} ∧
      (rows.zipIdx.foldlM (round d (expansion d 8) s (5, 7) 2 body) {}).map Buffer.sql =
        .ok "[($1|$2), ($3)]" ∧
      (Node.loop ⟨"none", []⟩ body).walk d (expansion d 8) s {} = .ok {} ∧
      (Node.loop ⟨"rows", []⟩ [.bind current]).walk d (expansion d 8) s {} =
        .error (.listOutsideInList current.path) := by
  intro d rows s current body
  have hrows : s.resolve ⟨"rows", []⟩ = .ok (.list rows) := rfl
  have hnone : s.resolve ⟨"none", []⟩ = .ok .null := rfl
  obtain ⟨-, hrounds, -, -, -⟩ := walk_loop_unrolled d 8 s (5, 7) ⟨"rows", []⟩ body
  obtain ⟨-, -, hnothing, -, -⟩ := walk_loop_unrolled d 8 s (5, 7) ⟨"none", []⟩ body
  obtain ⟨-, -, -, herror, -⟩ := walk_loop_unrolled d 8 s (5, 7) ⟨"rows", []⟩ [.bind current]
  exact ⟨hrounds rows {} hrows, by decide +kernel, hnothing {} (.inl hnone),
    herror [] _ _ rows {} {} _ rfl hrows rfl rfl⟩

end Node

end SqlTemplate
