import SqlTemplate.Proofs.Template.Marks
import SqlTemplate.Render.Memory

/-!
# A memory does not show

Evaluating with a memory answers what evaluating without one does. A memory is sound if each
remembered template is what its text parses to (`Memory.Sound`), under the setting of the variable
that remembers it; the setting is known by the place. From a sound memory a computation that
recalls must come to what a given one without a memory comes to, and leave a sound memory behind
(`Recalling.Answers`); this holds of the steps and is kept by sequences and folds, and so by the
walk through a tree, for which the walk without a memory is the computation to compare with.

The one condition is that the variables of a tree have the settings of their places
(`Node.Settled`). Each tree has settings of its own, since no two variables share a place
(`Node.settledAll_policyAll`). A tree that comes from a text has one setting throughout, which is
read off its marks.
-/

namespace SqlTemplate

/-- Each template that is remembered is what its text parses to, under the setting of its place. -/
def Memory.Sound (setting : Place → Bool) (m : Memory) : Prop :=
  ∀ r ∈ m, Template.parse (setting r.place) r.text = .ok r.template

namespace Memory

variable {setting : Place → Bool} {m : Memory} {place : Place} {text : String} {t : Template}

/-- Without a memory nothing is wrong. -/
theorem sound_nil (setting : Place → Bool) : Sound setting [] :=
  fun _ h => absurd h List.not_mem_nil

/-- What is recalled is what would be parsed. -/
theorem Sound.parse_eq_of_lookup? (h : m.Sound setting)
    (hlookup : m.lookup? place text = some t) : Template.parse (setting place) text = .ok t := by
  unfold lookup? at hlookup
  split at hlookup
  · next r hfind =>
    split_ifs at hlookup with htext
    obtain rfl := Option.some.inj hlookup
    have hplace : r.place = place := by simpa using List.find?_some hfind
    rw [← htext, ← hplace]
    exact h r (List.mem_of_find?_eq_some hfind)
  · simp at hlookup

/-- A template may be remembered that is what its text parses to. -/
theorem Sound.remember (h : m.Sound setting)
    (hparse : Template.parse (setting place) text = .ok t) :
    (m.remember place text t).Sound setting :=
  List.forall_mem_cons.2 ⟨hparse, fun r hr => h r (List.mem_of_mem_filter hr)⟩

end Memory

namespace Recalling

variable {setting : Place → Bool} {α β : Type}

/-- From every sound memory the computation comes to `y`, and leaves a sound memory behind. -/
def Answers (setting : Place → Bool) (x : Recalling α) (y : Except RenderError α) : Prop :=
  ∀ m : Memory, m.Sound setting → (x.run m).1 = y ∧ Memory.Sound setting (x.run m).2

/-- An answer is given as it is. -/
theorem answers_pure (a : α) : Answers setting (pure a) (.ok a) :=
  fun _ h => ⟨rfl, h⟩

/-- So is a fault. -/
theorem answers_throw (e : RenderError) :
    Answers setting (throw e : Recalling α) (.error e) :=
  fun _ h => ⟨rfl, h⟩

/-- A computation that knows of no memory answers itself. -/
theorem answers_lift (y : Except RenderError α) :
    Answers setting (liftM y : Recalling α) y :=
  fun _ h => ⟨rfl, h⟩

/-- Looking at the memory leaves it alone. -/
theorem run_get (m : Memory) : (get : Recalling Memory).run m = (.ok m, m) :=
  rfl

/-- A sequence runs its second step where the first one has left the memory. -/
theorem run_bind (x : Recalling α) (f : α → Recalling β) (m : Memory) :
    (x >>= f).run m =
      match x.run m with
      | (.ok a, m) => (f a).run m
      | (.error e, m) => (.error e, m) := by
  show (ExceptT.bindCont f <| (x.run m).1) (x.run m).2 = _
  rcases x.run m with ⟨_ | _, _⟩ <;> rfl

/-- Sequences answer if their steps do; the second step may rely on what the first one has come
to. -/
theorem Answers.bind {x : Recalling α} {y : Except RenderError α} {f : α → Recalling β}
    {g : α → Except RenderError β} (hx : Answers setting x y)
    (hf : ∀ a, y = .ok a → Answers setting (f a) (g a)) :
    Answers setting (x >>= f) (y >>= g) := by
  intro m hm
  obtain ⟨heq, hsound⟩ := hx m hm
  rw [run_bind]
  rcases hfirst : x.run m with ⟨outcome, m'⟩
  rw [hfirst] at heq hsound
  obtain rfl : outcome = y := heq
  cases outcome with
  | ok a => exact hf a rfl m' hsound
  | error e => exact ⟨rfl, hsound⟩

/-- Folds answer if their steps do. -/
theorem Answers.foldlM {f : β → α → Recalling β} {g : β → α → Except RenderError β}
    (h : ∀ b a, Answers setting (f b a) (g b a)) (as : List α) (b : β) :
    Answers setting (as.foldlM f b) (as.foldlM g b) := by
  induction as generalizing b with
  | nil => exact answers_pure b
  | cons a rest ih =>
    rw [List.foldlM_cons, List.foldlM_cons]
    exact (h b a).bind fun b _ => ih b

/-- The template of a text is what the text parses to, remembered or not. -/
theorem answers_template (place : Place) (text : String) :
    Answers setting (template place (setting place) text)
      ((Template.parse (setting place) text).mapError RenderError.parse) := by
  intro m hm
  rw [template, run_bind, run_get]
  dsimp only
  cases hlookup : m.lookup? place text with
  | some t =>
    rw [hm.parse_eq_of_lookup? hlookup]
    exact ⟨rfl, hm⟩
  | none =>
    cases hparse : Template.parse (setting place) text with
    | ok t => exact ⟨rfl, hm.remember hparse⟩
    | error e => exact ⟨rfl, hm⟩

end Recalling

/-! ## The walk -/

mutual

/-- The embedded variables of a part at a place have the settings of their places, and so have the
places inside them. -/
def Node.Settled (setting : Place → Bool) (place : Place) : Node → Prop
  | .embedded v => ∀ inner, setting (inner ++ place) = v.nullDisallowed
  | .branch _ _ yes no =>
    SettledAll setting (0 :: place) 0 yes ∧ SettledAll setting (1 :: place) 0 no
  | .scope children | .loop _ children | .first children | .last children =>
    SettledAll setting place 0 children
  | .literal _ | .bind _ | .connector _ => True

/-- The embedded variables of the parts that stand inside a place, the first of them at `index`,
have the settings of their places. -/
def Node.SettledAll (setting : Place → Bool) (place : Place) (index : Nat) : List Node → Prop
  | [] => True
  | node :: rest =>
    node.Settled setting (index :: place) ∧ SettledAll setting place (index + 1) rest

end

/-- A value is embedded as a template of its own, or by its text. -/
theorem Variable.pushEmbedded_eq (v : Variable) (d : Dialect) (expand : String → Step)
    (value : Value) (b : Buffer) :
    v.pushEmbedded d expand value b =
      match v.embedded? value with
      | some text => expand text b
      | none => v.pushEmbedded d (fun _ => .ok) value b := by
  unfold Variable.pushEmbedded Variable.embedded?
  cases v.demand value with
  | error e => rfl
  | ok demand =>
    cases demand with
    | nothing | items values => rfl
    | scalar value =>
      dsimp only [bind, Except.bind]
      cases htext : v.templateText? value with
      | some text => rfl
      | none => simp

namespace Recalling

variable {setting : Place → Bool} {d : Dialect} {expand : Expansion}
  {expand' : SqlTemplate.Expansion}

/-- Two ways to write a value that is a template of its own come to the same, where the variable
that embeds it has the setting of its place and of all places inside. -/
def Expands (setting : Place → Bool) (expand : Expansion) (expand' : SqlTemplate.Expansion) :
    Prop :=
  ∀ place v s text b, (∀ inner, setting (inner ++ place) = v.nullDisallowed) →
    Answers setting (expand place v s text b) (expand' v s text b)

mutual

/-- Walking with a memory comes to what walking without one does. -/
theorem answers_walk (hexpand : Expands setting expand expand') :
    ∀ (node : Node) (s : Scope) (place : Place) (b : Buffer), node.Settled setting place →
      Answers setting (walk d expand s place node b) (node.walk d expand' s b)
  | .literal text, _, _, _, _ => answers_pure _
  | .bind v, s, _, b, _ => (answers_lift (s.valueOf v.path)).bind fun _ _ => answers_lift _
  | .embedded v, s, place, b, hsettled => by
    refine (answers_lift (s.valueOf v.path)).bind fun value _ => ?_
    -- Only a text to parse asks the memory; all else answers as the plain walk does.
    have hpush := v.pushEmbedded_eq d (expand' v s) value b
    cases hembedded : v.embedded? value with
    | some text =>
      rw [hembedded] at hpush
      rw [hpush]
      exact hexpand place v s text b hsettled
    | none =>
      rw [hembedded] at hpush
      rw [hpush]
      exact answers_lift _
  | .branch condition source yes no, s, place, b, hsettled => by
    refine (answers_lift _).bind fun holds _ => ?_
    cases holds with
    | true => exact answers_walkAll hexpand yes s _ 0 b hsettled.1
    | false => exact answers_walkAll hexpand no s _ 0 b hsettled.2
  | .scope children, s, place, b, hsettled =>
    (answers_walkAll hexpand children s place 0 b.fork hsettled).bind fun _ _ => answers_pure _
  | .loop path children, s, place, b, hsettled =>
    (answers_lift (s.loopItems path)).bind fun items _ =>
      Answers.foldlM (fun b frame =>
        answers_walkAll hexpand children (s.enter frame) place 0 b hsettled) _ b
  | .connector text, s, _, b, _ => answers_pure _
  | .first children, s, place, b, hsettled | .last children, s, place, b, hsettled => by
    rw [walk, Node.walk]
    split_ifs
    · exact answers_walkAll hexpand children s place 0 b hsettled
    · exact answers_pure b

/-- Walking through parts with a memory comes to what walking without one does. -/
theorem answers_walkAll (hexpand : Expands setting expand expand') :
    ∀ (nodes : List Node) (s : Scope) (place : Place) (index : Nat) (b : Buffer),
      Node.SettledAll setting place index nodes →
      Answers setting (walkAll d expand s place index nodes b) (Node.walkAll d expand' s nodes b)
  | [], _, _, _, _, _ => answers_pure _
  | node :: rest, s, place, index, b, hsettled =>
    (answers_walk hexpand node s (index :: place) b hsettled.1).bind fun b _ =>
      answers_walkAll hexpand rest s place (index + 1) b hsettled.2

end

end Recalling

/-! ## Trees with one setting -/

/-- The variables that are written into the statement all have this setting. -/
def UniformMarks (nullDisallowed : Bool) (marks : List Mark) : Prop :=
  ∀ v, Mark.embedded v ∈ marks → v.nullDisallowed = nullDisallowed

/-- What stands in a block has the setting of the block. -/
theorem UniformMarks.inner {nullDisallowed : Bool} {opening closing : Mark} {inner : List Mark}
    (h : UniformMarks nullDisallowed (opening :: inner ++ [closing])) :
    UniformMarks nullDisallowed inner :=
  fun v hv => h v (List.mem_append_left _ (List.mem_cons_of_mem _ hv))

/-- What stands in one of the two parts of a conditional block has the setting of the block. -/
theorem UniformMarks.parts {nullDisallowed inThen : Bool} {condition : Expr} {source : String}
    {yes no : List Node}
    (h : UniformMarks nullDisallowed ((Node.branch condition source yes no).marks inThen)) :
    UniformMarks nullDisallowed (Node.marksOfAll true yes) ∧
      UniformMarks nullDisallowed (Node.marksOfAll false no) := by
  have hboth : UniformMarks nullDisallowed (Node.marksOfAll true yes ++
      if no.isEmpty then [] else .otherwise :: Node.marksOfAll false no) := h.inner
  refine ⟨fun v hv => hboth v (List.mem_append_left _ hv), fun v hv => ?_⟩
  cases no with
  | nil => exact absurd hv List.not_mem_nil
  | cons node rest => exact hboth v (List.mem_append_right _ (List.mem_cons_of_mem _ hv))

/-- The places inside a position have the setting of the places around it. -/
theorem setting_inner {setting : Place → Bool} {place : Place} {nullDisallowed : Bool}
    (h : ∀ inner, setting (inner ++ place) = nullDisallowed) (index : Nat) (inner : Place) :
    setting (inner ++ index :: place) = nullDisallowed := by
  rw [← List.singleton_append, ← List.append_assoc]
  exact h (inner ++ [index])

namespace Node

variable {setting : Place → Bool} {nullDisallowed : Bool}

mutual

/-- A part with one setting may stand where all places have this setting. -/
theorem settled_of_uniformMarks :
    ∀ (node : Node) (inThen : Bool) (place : Place),
      UniformMarks nullDisallowed (node.marks inThen) →
      (∀ inner, setting (inner ++ place) = nullDisallowed) → node.Settled setting place
  | .literal _, _, _, _, _ | .bind _, _, _, _, _ | .connector _, _, _, _, _ => trivial
  | .embedded v, _, _, hmarks, hplace =>
    fun inner => (hplace inner).trans (hmarks v List.mem_cons_self).symm
  | .branch _ _ yes no, _, _, hmarks, hplace =>
    ⟨settledAll_of_uniformMarks yes true _ 0 hmarks.parts.1 (setting_inner hplace 0),
      settledAll_of_uniformMarks no false _ 0 hmarks.parts.2 (setting_inner hplace 1)⟩
  | .scope children, _, place, hmarks, hplace | .loop _ children, _, place, hmarks, hplace
  | .first children, _, place, hmarks, hplace | .last children, _, place, hmarks, hplace =>
    settledAll_of_uniformMarks children false place 0 hmarks.inner hplace

/-- So may all parts of a block. -/
theorem settledAll_of_uniformMarks :
    ∀ (nodes : List Node) (inThen : Bool) (place : Place) (index : Nat),
      UniformMarks nullDisallowed (marksOfAll inThen nodes) →
      (∀ inner, setting (inner ++ place) = nullDisallowed) →
      SettledAll setting place index nodes
  | [], _, _, _, _, _ => trivial
  | node :: rest, inThen, place, index, hmarks, hplace =>
    ⟨settled_of_uniformMarks node inThen _ (fun v hv => hmarks v (List.mem_append_left _ hv))
        (setting_inner hplace index),
      settledAll_of_uniformMarks rest inThen place (index + 1)
        (fun v hv => hmarks v (List.mem_append_right _ hv)) hplace⟩

end

end Node

/-- Marks that stand for tokens have one setting. -/
theorem uniformMarks_of_standsFor {nullDisallowed : Bool} {marks : List Mark} {tokens : List Token}
    (h : List.Forall₂ (fun (mark : Mark) token => mark.StandsFor nullDisallowed token.kind)
      marks tokens) : UniformMarks nullDisallowed marks := by
  induction h with
  | nil => exact fun v hv => absurd hv List.not_mem_nil
  | @cons mark token _ _ hfirst _ ih =>
    intro v hv
    rcases List.mem_cons.1 hv with rfl | hv
    · obtain ⟨kind, offset⟩ := token
      cases hfirst
      rfl
    · exact ih v hv

/-- A tree that comes from a text has the setting of its text. -/
theorem Template.uniformMarks_of_parse {nullDisallowed : Bool} {text : String} {t : Template}
    (h : parse nullDisallowed text = .ok t) : UniformMarks nullDisallowed t.marks := by
  obtain ⟨tokens, htokens, htree⟩ := Outcome.bind_eq_ok.1 h
  have hchain := Token.isChain_adjoins_of_ofText htokens
  exact uniformMarks_of_standsFor (forall₂_standsFor_of_ofTokens htree hchain)

/-! ## Templates -/

/-- Templates in embedded values come to the same with a memory and without one. -/
theorem Recalling.expands_expansion (setting : Place → Bool) (d : Dialect) (room : Nat) :
    Expands setting (expansion d room) (SqlTemplate.expansion d room) := by
  induction room with
  | zero => exact fun _ v _ _ _ _ => answers_throw _
  | succ room ih =>
    intro place v s text b hplace
    -- A template in a value gets the setting of its variable, which is that of its place.
    have hsetting : v.nullDisallowed = setting place := (hplace []).symm
    show Answers setting (template place v.nullDisallowed text >>= _)
      ((Template.parse v.nullDisallowed text).mapError RenderError.parse >>= _)
    rw [hsetting] at hplace ⊢
    refine (answers_template place text).bind fun t ht => ?_
    have huniform := Template.uniformMarks_of_parse (Outcome.mapError_eq_ok.1 ht)
    exact answers_walkAll ih t.nodes s place 0 b
      (Node.settledAll_of_uniformMarks t.nodes false place 0 huniform hplace)

/-- The statement of a tree whose variables have the settings of their places is the same with a
memory and without one. -/
theorem Template.answers_evaluateAt_of_settled {setting : Place → Bool} {t : Template}
    {place : Place} (h : Node.SettledAll setting place 0 t.nodes) (d : Dialect)
    (rootAlias : String) (parameters : Parameters) :
    Recalling.Answers setting (t.evaluateAt place d rootAlias parameters)
      (t.evaluate d rootAlias parameters) :=
  (Recalling.answers_walkAll (Recalling.expands_expansion setting d maxDepth) t.nodes
    ⟨rootAlias, parameters, []⟩ place 0 {} h).bind
      fun b _ => Recalling.answers_pure b.toStatement

/-- The statement of a tree that comes from a text is the same with a memory and without one. -/
theorem Template.answers_evaluateAt {nullDisallowed : Bool} {text : String} {t : Template}
    (h : parse nullDisallowed text = .ok t) (place : Place) (d : Dialect) (rootAlias : String)
    (parameters : Parameters) :
    Recalling.Answers (fun _ => nullDisallowed) (t.evaluateAt place d rootAlias parameters)
      (t.evaluate d rootAlias parameters) :=
  answers_evaluateAt_of_settled
    (Node.settledAll_of_uniformMarks t.nodes false place 0 (uniformMarks_of_parse h) fun _ => rfl)
    d rootAlias parameters

/-! ## The settings of a tree -/

mutual

/-- The setting of the variable that stands at a place inside a part, or around this place. The
place is read from the outside. -/
def Node.policy : Node → List Nat → Bool
  | .embedded v, _ => v.nullDisallowed
  | .branch _ _ yes no, side :: inner =>
    if side = 0 then policyAll yes inner else policyAll no inner
  | .scope children, inner | .loop _ children, inner | .first children, inner
  | .last children, inner => policyAll children inner
  | _, _ => false

/-- The setting of the variable that stands at a place inside parts, or around this place. -/
def Node.policyAll : List Node → List Nat → Bool
  | node :: _, 0 :: inner => node.policy inner
  | _ :: rest, (index + 1) :: inner => policyAll rest (index :: inner)
  | _, _ => false

end

namespace Node

variable {setting : Place → Bool}

/-- What is found for the places inside a place is found for those inside a position of it. -/
theorem setting_position (found : List Nat → Bool) {place : Place}
    (h : ∀ inner, setting (inner ++ place) = found inner.reverse) (inner : Place) (index : Nat) :
    setting (inner ++ index :: place) = found (index :: inner.reverse) := by
  have hindex := h (inner ++ [index])
  rwa [List.append_assoc, List.reverse_append] at hindex

mutual

/-- Each variable of a part has the setting that is found for its place. -/
theorem settled_policy : ∀ (node : Node) (place : Place),
    (∀ inner, setting (inner ++ place) = node.policy inner.reverse) → node.Settled setting place
  | .literal _, _, _ | .bind _, _, _ | .connector _, _, _ => trivial
  | .embedded v, _, h => h
  | .branch _ _ yes no, place, h =>
    -- Each child has the place of its parent and its own number in it.
    ⟨settledAll_policyAll yes _ 0 fun inner index => by
        rw [Nat.zero_add]
        exact setting_position (policyAll yes) (fun inner => setting_position _ h inner 0)
          inner index,
      settledAll_policyAll no _ 0 fun inner index => by
        rw [Nat.zero_add]
        exact setting_position (policyAll no) (fun inner => setting_position _ h inner 1)
          inner index⟩
  | .scope children, place, h | .loop _ children, place, h | .first children, place, h
  | .last children, place, h =>
    settledAll_policyAll children place 0 fun inner index => by
      rw [Nat.zero_add]
      exact setting_position _ h inner index

/-- Each variable of the parts of a block has the setting that is found for its place. -/
theorem settledAll_policyAll : ∀ (nodes : List Node) (place : Place) (start : Nat),
    (∀ inner index, setting (inner ++ (start + index) :: place) =
      policyAll nodes (index :: inner.reverse)) → SettledAll setting place start nodes
  | [], _, _, _ => trivial
  | node :: rest, place, start, h =>
    ⟨settled_policy node _ fun inner => h inner 0,
      settledAll_policyAll rest place (start + 1) fun inner index => by
        rw [Nat.add_assoc, Nat.add_comm 1]
        exact h inner (index + 1)⟩

end

end Node

/-- The settings of the places of a tree that stands at a place. -/
def Template.settingAt (t : Template) (place : Place) : Place → Bool :=
  fun inner => Node.policyAll t.nodes (inner.reverse.drop place.length)

/-- The variables of a tree have the settings that are read off it. -/
theorem Template.settled_settingAt (t : Template) (place : Place) :
    Node.SettledAll (t.settingAt place) place 0 t.nodes := by
  refine Node.settledAll_policyAll t.nodes place 0 fun inner index => ?_
  have hdrop : (inner ++ index :: place).reverse.drop place.length =
      index :: inner.reverse := by
    simp
  rw [Template.settingAt, Nat.zero_add, hdrop]

/-! ## Earlier evaluations -/

/-- What a tree is evaluated for. -/
structure Evaluation where
  /-- The dialect of the statement. -/
  dialect : Dialect
  /-- The alias under which the parameter object is reached. -/
  rootAlias : String
  /-- The parameter object. -/
  parameters : Parameters

namespace Template

/-- What the variables of the tree at a place remember after evaluations, the first one first. -/
def memoryAfter (t : Template) (place : Place) (earlier : List Evaluation) : Memory :=
  earlier.foldl
    (fun m e => ((t.evaluateAt place e.dialect e.rootAlias e.parameters).run m).2) []

/-- What is remembered after evaluations is sound. -/
theorem sound_memoryAfter (t : Template) (place : Place) (earlier : List Evaluation) :
    (t.memoryAfter place earlier).Sound (t.settingAt place) := by
  induction earlier using List.reverseRecOn with
  | nil => exact Memory.sound_nil _
  | append_singleton earlier e ih =>
    rw [memoryAfter, List.foldl_append]
    exact (answers_evaluateAt_of_settled (t.settled_settingAt place) e.dialect e.rootAlias
      e.parameters _ ih).2

/-- Earlier evaluations do not show. -/
theorem evaluateAt_memoryAfter (t : Template) (place : Place) (earlier : List Evaluation)
    (d : Dialect) (rootAlias : String) (parameters : Parameters) :
    ((t.evaluateAt place d rootAlias parameters).run (t.memoryAfter place earlier)).1 =
      t.evaluate d rootAlias parameters :=
  (answers_evaluateAt_of_settled (t.settled_settingAt place) d rootAlias parameters _
    (t.sound_memoryAfter place earlier)).1

end Template

end SqlTemplate
