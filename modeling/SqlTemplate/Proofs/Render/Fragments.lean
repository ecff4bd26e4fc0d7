import SqlTemplate.Proofs.Render.Pruning
import SqlTemplate.Proofs.Render.Steps
import SqlTemplate.Proofs.Template.Marks

/-!
# A statement in fragments

A walk writes one text. `Template.fragments` keeps apart what it writes at a time: plain SQL, a
connector, a placeholder with its bind, and the marks of an in-list. So one can say of a statement
where a text of the template begins, which is lost in the text as a whole.

The statement of a template that embeds no value is its fragments one after the other, for every
dialect whose placeholder is a question mark (`Template.evaluate_fragments`). `Buffer.Writes` says
so of one step, and `Node.writes_of_walk` takes it over the tree.
-/

namespace SqlTemplate

/-- A fragment of a statement: a text that is written at a time, and the number of its binds. -/
structure Fragment where
  /-- The text. -/
  text : List Char
  /-- The number of binds. -/
  binds : Nat
  deriving DecidableEq, Repr

namespace Fragment

/-- A text without a bind. -/
def plain (text : String) : Fragment :=
  ⟨text.toList, 0⟩

/-- A bind with its placeholder. -/
def mark : Fragment :=
  ⟨['?'], 1⟩

/-- The text of fragments one after the other. -/
def join (fragments : List Fragment) : List Char :=
  fragments.flatMap text

/-- The number of their binds. -/
def total : List Fragment → Nat
  | [] => 0
  | f :: rest => f.binds + total rest

variable {fragments : List Fragment}

/-- No fragments make up no text. -/
@[simp] theorem join_nil : join [] = [] := rfl

/-- The text of the first fragment comes first. -/
@[simp] theorem join_cons (f : Fragment) (fragments : List Fragment) :
    join (f :: fragments) = f.text ++ join fragments :=
  List.flatMap_cons

/-- Fragments in two parts make up the texts of the parts. -/
@[simp] theorem join_append (fragments more : List Fragment) :
    join (fragments ++ more) = join fragments ++ join more :=
  List.flatMap_append

/-- The binds of the first fragment are counted with those of the others. -/
@[simp] theorem total_cons (f : Fragment) (fragments : List Fragment) :
    total (f :: fragments) = f.binds + total fragments := rfl

/-- Fragments in two parts have the binds of both parts. -/
@[simp] theorem total_append (fragments more : List Fragment) :
    total (fragments ++ more) = total fragments + total more := by
  induction fragments with
  | nil => exact (Nat.zero_add _).symm
  | cons f rest ih => rw [List.cons_append, total_cons, total_cons, ih, Nat.add_assoc]

/-! ## Pruning -/

/-- The fragments without the first `n` characters of their text. -/
def dropChars : Nat → List Fragment → List Fragment
  | _, [] => []
  | n, f :: rest => { f with text := f.text.drop n } :: dropChars (n - f.text.length) rest

/-- Dropping characters from the fragments drops them from the text. -/
theorem join_dropChars (n : Nat) (fragments : List Fragment) :
    join (dropChars n fragments) = (join fragments).drop n := by
  induction fragments generalizing n with
  | nil => exact List.drop_nil.symm
  | cons f rest ih => rw [dropChars, join_cons, join_cons, ih, List.drop_append]

/-- Dropping characters drops no binds. -/
theorem total_dropChars (n : Nat) (fragments : List Fragment) :
    total (dropChars n fragments) = total fragments := by
  induction fragments generalizing n with
  | nil => rfl
  | cons f rest ih => rw [dropChars, total_cons, total_cons, ih]

/-- Without any characters dropped, the fragments are as they were. -/
theorem dropChars_zero (fragments : List Fragment) : dropChars 0 fragments = fragments := by
  induction fragments with
  | nil => rfl
  | cons f rest ih => rw [dropChars, Nat.zero_sub, ih, List.drop_zero]

/-- The fragments of what a scope contributes. -/
def pruned (fragments : List Fragment) : List Fragment :=
  match pruneChars (join fragments) with
  | none => []
  | some out =>
    if out = join fragments then fragments
    else
      let opening := Opening.of (join fragments)
      ⟨opening.reduced, 0⟩ :: dropChars opening.start.length fragments

/-- A scope that vanishes leaves no fragment. -/
theorem pruned_eq_nil (h : pruneChars (join fragments) = none) : pruned fragments = [] := by
  rw [pruned, h]

/-- The fragments of a scope that contributes are left as they are, or their start is reduced. -/
theorem pruned_eq {out : List Char} (h : pruneChars (join fragments) = some out) :
    pruned fragments = fragments ∨
      pruned fragments = ⟨(Opening.of (join fragments)).reduced, 0⟩ ::
        dropChars (Opening.of (join fragments)).start.length fragments ∧
      (∀ c ∈ (Opening.of (join fragments)).start, isBlankOrLetter c = true) ∧
      ∀ c ∈ (Opening.of (join fragments)).reduced, isBlankOrLetter c = true := by
  rw [pruned, h]
  by_cases hout : out = join fragments
  · exact .inl (if_pos hout)
  · obtain ⟨-, hplain⟩ := (pruneChars_eq_some h).resolve_left hout
    exact .inr ⟨if_neg hout, hplain⟩

/-- What is left of the text behind its start. -/
theorem join_dropChars_start (fragments : List Fragment) :
    join (dropChars (Opening.of (join fragments)).start.length fragments) =
      (Opening.of (join fragments)).remaining := by
  have hparts := Opening.start_append_remaining (join fragments)
  generalize Opening.of (join fragments) = opening at hparts
  rw [join_dropChars, ← hparts, List.drop_left]

/-- They make up what the scope contributes, with all its binds. -/
theorem join_pruned {out : List Char} (h : pruneChars (join fragments) = some out) :
    join (pruned fragments) = out ∧ total (pruned fragments) = total fragments := by
  rw [pruned, h]
  dsimp only
  split_ifs with hout
  · exact ⟨hout.symm, rfl⟩
  · obtain ⟨hreduced, -⟩ := (pruneChars_eq_some h).resolve_left hout
    rw [join_cons, join_dropChars_start, total_cons, total_dropChars, Nat.zero_add]
    exact ⟨hreduced.symm, rfl⟩

/-! ## The tree -/

/-- The fragments of a value that is bound. -/
def ofValue : Value → List Fragment
  | .null => []
  | .list [] => [plain "(null)"]
  | .list (_ :: rest) =>
    plain "(" :: mark :: rest.flatMap (fun _ => [plain ", ", mark]) ++ [plain ")"]
  | _ => [mark]

end Fragment

mutual

/-- The fragments of a part of a template in a scope. A part with a fault has none, nor has an
embedded value. -/
def Node.fragments (s : Scope) : Node → List Fragment
  | .literal text => [.plain text]
  | .bind v =>
    match s.resolve v.path with
    | .ok value => Fragment.ofValue value
    | .error _ => []
  | .embedded _ => []
  | .branch condition _ yes no =>
    match s.holds condition with
    | .ok true => fragmentsOfAll s yes
    | .ok false => fragmentsOfAll s no
    | .error _ => []
  | .scope children => Fragment.pruned (fragmentsOfAll s children)
  | .loop path children =>
    match s.resolve path with
    | .ok (.list items) =>
      (LoopFrame.ofItems items).flatMap fun frame => fragmentsOfAll (s.enter frame) children
    | _ => []
  | .connector text => if s.current?.any (!·.isFirst) then [.plain text] else []
  | .first children =>
    if s.current?.any LoopFrame.isFirst then fragmentsOfAll s children else []
  | .last children =>
    if s.current?.any LoopFrame.isLast then fragmentsOfAll s children else []

/-- The fragments of parts of a template, one after the other. -/
def Node.fragmentsOfAll (s : Scope) : List Node → List Fragment
  | [] => []
  | node :: rest => node.fragments s ++ fragmentsOfAll s rest

end

/-- The fragments of a template for a parameter object that is reached under an alias. -/
def Template.fragments (t : Template) (rootAlias : String) (parameters : Parameters) :
    List Fragment :=
  Node.fragmentsOfAll ⟨rootAlias, parameters, []⟩ t.nodes

/-- The mark of a variable that is embedded. -/
def Mark.isEmbedded : Mark → Bool
  | embedded _ => true
  | _ => false

/-- The template embeds a value. -/
def Template.embeds (t : Template) : Bool :=
  t.marks.any Mark.isEmbedded

/-! ## What a step writes -/

/-- A step has written these fragments. -/
structure Buffer.Writes (b : Buffer) (fragments : List Fragment) (b' : Buffer) : Prop where
  /-- Their text comes behind what was there. -/
  sql : b'.sql.toList = b.sql.toList ++ Fragment.join fragments
  /-- There are as many binds more. -/
  binds : b'.binds.length = b.binds.length + Fragment.total fragments

namespace Buffer.Writes

variable {b b₁ b₂ child : Buffer} {fragments more : List Fragment} {d : Dialect}

/-- A step that does nothing writes no fragment. -/
theorem refl (b : Buffer) : b.Writes [] b :=
  ⟨(List.append_nil _).symm, rfl⟩

/-- Steps one after the other. -/
theorem trans (h₁ : b.Writes fragments b₁) (h₂ : b₁.Writes more b₂) :
    b.Writes (fragments ++ more) b₂ := by
  constructor
  · rw [h₂.sql, h₁.sql, Fragment.join_append, List.append_assoc]
  · rw [h₂.binds, h₁.binds, Fragment.total_append, Nat.add_assoc]

/-- A text is a fragment without binds. -/
theorem push (b : Buffer) (text : String) : b.Writes [.plain text] (b.push text) := by
  refine ⟨?_, rfl⟩
  rw [Fragment.join_cons, Fragment.join_nil, List.append_nil]
  exact String.toList_append ..

/-- The placeholder of a bind is a question mark. -/
theorem pushBind (hd : d.kind ≠ .postgres) (b : Buffer) (bind : Bind) :
    b.Writes [.mark] (b.pushBind d bind) := by
  have hplaceholder : d.placeholder (b.position + 1) = "?" := by
    unfold Dialect.placeholder
    split
    · exact absurd ‹d.kind = .postgres› hd
    · rfl
  refine ⟨?_, List.length_append⟩
  rw [Buffer.pushBind, hplaceholder]
  exact String.toList_append ..

/-- A scope writes what is left of its fragments. -/
theorem mergePruned (h : b.fork.Writes fragments child) :
    b.Writes (Fragment.pruned fragments) (b.mergePruned child) := by
  have hsql : child.sql.toList = Fragment.join fragments := h.sql
  have hbinds : child.binds.length = Fragment.total fragments := h.binds.trans (Nat.zero_add _)
  -- The scope is pruned by its text, which is that of its fragments.
  unfold Buffer.mergePruned prune
  rw [hsql]
  cases hprune : pruneChars (Fragment.join fragments) with
  | none =>
    rw [Fragment.pruned_eq_nil hprune]
    exact refl b
  | some out =>
    obtain ⟨hjoin, htotal⟩ := Fragment.join_pruned hprune
    constructor
    · rw [hjoin]
      show (b.sql ++ String.ofList out).toList = _
      rw [String.toList_append, String.toList_ofList]
    · rw [htotal, ← hbinds]
      exact List.length_append

end Buffer.Writes

namespace Variable

variable {v : Variable} {d : Dialect} {b b' : Buffer}

/-- Each further element of an in-list is written behind a comma. -/
theorem writes_of_pushItems (hd : d.kind ≠ .postgres) {index : Nat} {items : List Value}
    (h : v.pushItems d (index + 1) items b = .ok b') :
    b.Writes (items.flatMap fun _ => [.plain ", ", .mark]) b' := by
  -- On the elements; each of them stands behind the buffer that those before have left.
  induction items generalizing index b with
  | nil =>
    obtain rfl := Except.ok.inj h
    exact .refl b
  | cons item rest ih =>
    unfold pushItems at h
    simp only [Nat.succ_ne_zero, if_false] at h
    split_ifs at h
    have hitem : b.Writes [.plain ", ", .mark] _ :=
      (Buffer.Writes.push b ", ").trans (.pushBind hd _ (v.toBind item))
    rw [List.flatMap_cons]
    exact hitem.trans (ih h)

/-- A variable that is bound writes the fragments of its value. -/
theorem writes_of_pushBound (hd : d.kind ≠ .postgres) {value : Value}
    (h : v.pushBound d value b = .ok b') : b.Writes (Fragment.ofValue value) b' := by
  rcases pushBound_eq_ok h with ⟨rfl, rfl⟩ | ⟨hnull, hcompound, rfl⟩ | ⟨rfl, rfl⟩ |
    ⟨items, inner, rfl, hitems, -, hinner, rfl⟩
  · exact .refl b'
  · cases value with
    | null => simp [Value.isNull] at hnull
    | list | object => simp [Value.isCompound] at hcompound
    | bool | integer | decimal | string | date | timestamp => exact .pushBind hd b _
  · exact .push b "(null)"
  · obtain ⟨item, rest, rfl⟩ := List.exists_cons_of_ne_nil hitems
    rw [pushItems] at hinner
    simp only [if_true] at hinner
    split_ifs at hinner
    -- The parenthesis and the first bind, the further binds, the other parenthesis.
    have hopen := (Buffer.Writes.push b "(").trans (.pushBind hd _ (v.toBind item))
    have hrest := writes_of_pushItems hd hinner
    exact (hopen.trans hrest).trans (.push inner ")")

end Variable

namespace Node

variable {d : Dialect} {expand : Expansion}

/-- A conditional block embeds no value if neither of its parts does. -/
theorem any_isEmbedded_branch {inThen : Bool} {condition : Expr} {source : String}
    {yes no : List Node}
    (h : ((branch condition source yes no).marks inThen).any Mark.isEmbedded = false) :
    (marksOfAll true yes).any Mark.isEmbedded = false ∧
      (marksOfAll false no).any Mark.isEmbedded = false := by
  cases no with
  | nil => simpa [marks, marksOfAll, Mark.isEmbedded] using h
  | cons node no => simpa [marks, marksOfAll, Mark.isEmbedded] using h

/-- Any other block embeds no value if its inside does not. -/
theorem any_isEmbedded_inside {kind : BlockKind} {marks : List Mark}
    (h : (Mark.opening kind :: marks ++ [Mark.close]).any Mark.isEmbedded = false) :
    marks.any Mark.isEmbedded = false := by
  simpa [Mark.isEmbedded] using h

mutual

/-- A part of a template that embeds no value writes its fragments. -/
theorem writes_of_walk (hd : d.kind ≠ .postgres) {s : Scope} {b b' : Buffer} (inThen : Bool) :
    (node : Node) → (node.marks inThen).any Mark.isEmbedded = false →
    node.walk d expand s b = .ok b' → b.Writes (node.fragments s) b'
  | .literal text, _, h => by
    obtain rfl := Except.ok.inj h
    exact .push b text
  | .bind v, _, h => by
    obtain ⟨value, hvalue, h⟩ := Outcome.bind_eq_ok.1 h
    rw [Scope.valueOf_eq_ok] at hvalue
    simp only [Node.fragments, hvalue]
    exact Variable.writes_of_pushBound hd h
  | .embedded v, hembedded, _ => absurd hembedded Bool.false_ne_true.symm
  | .branch condition _ yes no, hembedded, h => by
    obtain ⟨hyes, hno⟩ := any_isEmbedded_branch hembedded
    obtain ⟨holds, hcondition, h⟩ := Outcome.bind_eq_ok.1 h
    rw [Outcome.mapError_eq_ok] at hcondition
    simp only [Node.fragments, hcondition]
    cases holds with
    | true => exact writes_of_walkAll hd true yes hyes h
    | false => exact writes_of_walkAll hd false no hno h
  | .scope children, hembedded, h => by
    obtain ⟨child, hchild, h⟩ := Outcome.bind_eq_ok.1 h
    obtain rfl := Except.ok.inj h
    have hinner := any_isEmbedded_inside hembedded
    exact (writes_of_walkAll hd false children hinner hchild).mergePruned
  | .loop path children, hembedded, h => by
    obtain ⟨items, hitems, h⟩ := Outcome.bind_eq_ok.1 h
    have hinner := any_isEmbedded_inside hembedded
    rcases Scope.loopItems_eq_ok hitems with ⟨hresolve, rfl⟩ | hresolve
    · obtain rfl := Except.ok.inj h
      simp only [Node.fragments, hresolve]
      exact .refl b
    · simp only [Node.fragments, hresolve]
      -- The rounds write one after the other.
      refine Outcome.foldlM_flatMap (R := Buffer.Writes) .refl .trans ?_ h
      intro frame _ _ _ hround
      exact writes_of_walkAll hd false children hinner hround
  | .connector text, _, h => by
    obtain rfl := Except.ok.inj h
    rw [Node.fragments]
    split_ifs
    · exact .push b text
    · exact .refl b
  | .first children, hembedded, h | .last children, hembedded, h => by
    rw [Node.walk] at h
    rw [Node.fragments]
    split_ifs at h ⊢
    · exact writes_of_walkAll hd false children (any_isEmbedded_inside hembedded) h
    · obtain rfl := Except.ok.inj h
      exact .refl b

/-- So do parts of a template one after the other. -/
theorem writes_of_walkAll (hd : d.kind ≠ .postgres) {s : Scope} {b b' : Buffer} (inThen : Bool) :
    (nodes : List Node) → (marksOfAll inThen nodes).any Mark.isEmbedded = false →
    walkAll d expand s nodes b = .ok b' → b.Writes (fragmentsOfAll s nodes) b'
  | [], _, h => by
    obtain rfl := Except.ok.inj h
    exact .refl b
  | node :: rest, hembedded, h => by
    rw [marksOfAll, List.any_append, Bool.or_eq_false_iff] at hembedded
    obtain ⟨next, hfirst, hrest⟩ := Outcome.bind_eq_ok.1 h
    have hnode := writes_of_walk hd inThen node hembedded.1 hfirst
    exact hnode.trans (writes_of_walkAll hd inThen rest hembedded.2 hrest)

end

end Node

/-- The statement of a template that embeds no value is made of its fragments, where the placeholder
is a question mark. -/
theorem Template.evaluate_fragments {t : Template} {d : Dialect} {rootAlias : String}
    {parameters : Parameters} {statement : Statement} (hd : d.kind ≠ .postgres)
    (hembeds : t.embeds = false) (h : t.evaluate d rootAlias parameters = .ok statement) :
    statement.sql.toList = Fragment.join (t.fragments rootAlias parameters) ∧
      statement.binds.length = Fragment.total (t.fragments rootAlias parameters) := by
  obtain ⟨b, hwalk, hb⟩ := Outcome.bind_eq_ok.1 h
  obtain rfl := Except.ok.inj hb
  have hwrites := Node.writes_of_walkAll hd false t.nodes hembeds hwalk
  exact ⟨hwrites.sql, hwrites.binds.trans (Nat.zero_add _)⟩

end SqlTemplate
