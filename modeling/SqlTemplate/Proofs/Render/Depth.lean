import SqlTemplate.Proofs.Render.Agenda

/-!
# How deep embedded templates nest

An evaluation is refused for its depth exactly if the walk of the template, with no limit set,
comes to an embedded template of the ninth level (`Template.evaluateAt_depth`). Until then the
limit makes no difference to a step (`Pending.unfold_within`), and only the limit refuses anything
for its depth (`Pending.shallow_unfold`). How many embedded templates there are side by side, or in
how many rounds, does not count, since the level of a part is not that of a walk.
-/

namespace SqlTemplate

variable {d : Dialect} {n : Nat}

/-- The walk of the parts comes to an embedded template of this level. A template that the
evaluated one embeds is of level 1, one that it embeds in turn of level 2, and so on. -/
def Reaches (d : Dialect) (start : List Pending) (level : Nat) : Prop :=
  ∃ p rest, Runs d none start (p :: rest) ∧ p.dynamic?.isSome = true ∧ p.level + 1 = level

/-! ## What is refused for its depth -/

/-- The computation does not end with the fault that embedded templates nest too deep. -/
def Shallow {α : Type} (x : Except RenderError α) : Prop :=
  ∀ path max, x ≠ .error (.tooDeep path max)

section Shallow

variable {α β : Type}

/-- What succeeds is not refused. -/
theorem shallow_ok (a : α) : Shallow (.ok a : Except RenderError α) :=
  nofun

/-- Nor are two computations one after the other, if none of them is. -/
theorem Shallow.bind {x : Except RenderError α} (hx : Shallow x) {f : α → Except RenderError β}
    (hf : ∀ a, Shallow (f a)) : Shallow (x >>= f) := by
  cases x with
  | ok a => exact hf a
  | error e =>
    intro path max h
    obtain rfl := Except.error.inj h
    exact hx path max rfl

/-- Changing the answer changes no fault. -/
theorem Shallow.map {x : Except RenderError α} (hx : Shallow x) (f : α → β) :
    Shallow (x.map f) := by
  cases x with
  | ok a => exact shallow_ok _
  | error e =>
    intro path max h
    obtain rfl := Except.error.inj h
    exact hx path max rfl

/-- A fault of a condition is none of the depth. -/
theorem shallow_condition (x : Except ConditionError α) :
    Shallow (x.mapError RenderError.condition) := by
  cases x with
  | ok a => exact shallow_ok a
  | error e => exact fun _ _ h => RenderError.noConfusion (Except.error.inj h)

/-- Nor is one of a text that is no template. -/
theorem shallow_parse (x : Except ParseError α) : Shallow (x.mapError RenderError.parse) := by
  cases x with
  | ok a => exact shallow_ok a
  | error e => exact fun _ _ h => RenderError.noConfusion (Except.error.inj h)

/-- Nor is a computation on each element of a list. -/
theorem shallow_mapM {f : α → Except RenderError β} (hf : ∀ a, Shallow (f a)) (as : List α) :
    Shallow (as.mapM f) := by
  induction as with
  | nil => exact shallow_ok _
  | cons a as ih =>
    rw [List.mapM_cons]
    exact (hf a).bind fun b => ih.bind fun bs => shallow_ok _

end Shallow

namespace Variable

variable (v : Variable) (d : Dialect)

/-- Asking what a variable demands is not refused for its depth. -/
theorem shallow_demand (value : Value) : Shallow (v.demand value) := by
  unfold demand
  split <;> (try split) <;> nofun

/-- Nor is checking the size of an in-list. -/
theorem shallow_checkSize (size : Nat) : Shallow (v.checkSize d size) := by
  unfold checkSize
  split <;> (try split) <;> nofun

/-- Nor is the text of an embedded value. -/
theorem shallow_embeddedText (value : Value) : Shallow (v.embeddedText d value) := by
  unfold embeddedText
  split_ifs
  · nofun
  · nofun
  · split <;> nofun

/-- Nor are the elements of an in-list. -/
theorem shallow_pushItems (index : Nat) (items : List Value) (b : Buffer) :
    Shallow (v.pushItems d index items b) := by
  induction items generalizing index b with
  | nil => exact shallow_ok b
  | cons item rest ih =>
    unfold pushItems
    split
    · intro path max h
      cases h
    · exact ih _ _

/-- Nor is a variable that is bound. -/
theorem shallow_pushBound (value : Value) (b : Buffer) : Shallow (v.pushBound d value b) := by
  refine (v.shallow_demand value).bind fun demand => ?_
  cases demand with
  | nothing | scalar => exact shallow_ok _
  | items items =>
    refine (v.shallow_checkSize d _).bind fun _ => ?_
    split
    · exact shallow_ok _
    · exact (v.shallow_pushItems d _ _ _).bind fun _ => shallow_ok _

/-- Nor is an embedded variable, if its value is no template. -/
theorem shallow_pushEmbedded (value : Value) (b : Buffer) :
    Shallow (v.pushEmbedded d (fun _ => .ok) value b) := by
  refine (v.shallow_demand value).bind fun demand => ?_
  -- A text to parse is handed to the expansion, which does nothing here; all else is written.
  cases demand with
  | nothing => exact shallow_ok _
  | scalar value =>
    dsimp only
    split
    · exact shallow_ok _
    · exact (v.shallow_embeddedText d value).bind fun _ => shallow_ok _
  | items items =>
    refine (v.shallow_checkSize d _).bind fun _ => ?_
    split
    · exact shallow_ok _
    · exact (shallow_mapM (v.shallow_embeddedText d) items).bind fun _ => shallow_ok _

end Variable

/-- The values that a walk takes for templates are the strings with the start of a comment. -/
theorem Variable.embedded?_eq_dynamicText? (v : Variable) (value : Value) :
    v.embedded? value = v.dynamicText? value := by
  unfold embedded?
  cases hlist : v.test.inList with
  | true =>
    -- In an in-list no value is a template, and a string is a fault.
    have hdynamic : v.dynamicText? value = none := by
      cases value <;> simp [dynamicText?, hlist]
    rw [hdynamic]
    cases hdemand : v.demand value with
    | error e => rfl
    | ok demand =>
      rcases demand_eq_ok hdemand with
        ⟨-, -, rfl⟩ | ⟨-, -, hscalar, -⟩ | ⟨items, -, -, rfl⟩
      · rfl
      · exact absurd (hlist.symm.trans hscalar) Bool.false_ne_true.symm
      · rfl
  | false =>
    rw [← templateText?_eq_dynamicText? hlist]
    cases value with
    | null => cases hnull : v.nullDisallowed <;> simp [demand, hnull, templateText?]
    | _ => simp [demand, hlist, templateText?]

/-- Looking up a value is not refused for its depth. -/
theorem Scope.shallow_valueOf (s : Scope) (path : Path) : Shallow (s.valueOf path) :=
  shallow_condition _

/-- Nor are the elements that a loop runs over. -/
theorem Scope.shallow_loopItems (s : Scope) (path : Path) : Shallow (s.loopItems path) := by
  refine (s.shallow_valueOf path).bind fun value => ?_
  split <;> nofun

namespace Pending

variable {p : Pending}

/-- Without a limit nothing is refused for its depth. -/
theorem shallow_unfold (d : Dialect) (p : Pending) : Shallow (p.unfold d none) := by
  obtain ⟨level, s, node⟩ := p
  -- Without a limit no node compares its level with one.
  cases node with
  | literal | connector | scope | first | last => exact shallow_ok _
  | bind v =>
    exact (s.shallow_valueOf v.path).bind fun value => (v.shallow_pushBound d value {}).map _
  | embedded v =>
    refine (s.shallow_valueOf v.path).bind fun value => ?_
    split
    · exact (v.shallow_pushEmbedded d value {}).map _
    · exact (shallow_parse _).map _
  | branch condition source yes no => exact (shallow_condition _).map _
  | loop path children => exact (s.shallow_loopItems path).map _

/-! ## What the limit changes -/

/-- An embedded template is refused if the limit is reached, and else it is parsed and takes the
place of the variable, a level deeper. -/
theorem unfold_embedded {level : Nat} {s : Scope} {v : Variable} (limit : Option Nat)
    {value : Value} {text : String} (hvalue : s.valueOf v.path = .ok value)
    (hembedded : v.embedded? value = some text) :
    unfold d limit ⟨level, s, .embedded v⟩ =
      if limit.any (· ≤ level) then .error (.tooDeep v.path maxDepth)
      else
        ((Template.parse v.nullDisallowed text).mapError RenderError.parse).map fun t =>
          ofNodes (level + 1) s t.nodes := by
  simp only [unfold, hvalue, Outcome.ok_bind, hembedded]

/-- A part embeds a template if its variable leads to a value that a walk takes for one. -/
theorem dynamic?_embedded {level : Nat} {s : Scope} {v : Variable} {text : String} :
    dynamic? ⟨level, s, .embedded v⟩ = some text ↔
      ∃ value, s.valueOf v.path = .ok value ∧ v.embedded? value = some text := by
  simp only [Scope.valueOf_eq_ok, Variable.embedded?_eq_dynamicText?, dynamic?]
  cases s.resolve v.path with
  | error e => simp
  | ok value => simp

/-- The limit makes no difference to a part that embeds no template, or one within the limit. -/
theorem unfold_within (h : p.dynamic?.isSome = true → p.level < n) :
    p.unfold d (some n) = p.unfold d none := by
  obtain ⟨level, s, node⟩ := p
  cases node with
  -- The limit is looked at for a dynamic text alone.
  | embedded v =>
    cases hvalue : s.valueOf v.path with
    | error e => simp only [unfold, hvalue]; rfl
    | ok value =>
      cases hembedded : v.embedded? value with
      | none => simp only [unfold, hvalue, Outcome.ok_bind, hembedded]
      | some text =>
        have hdynamic : dynamic? ⟨level, s, .embedded v⟩ = some text :=
          dynamic?_embedded.2 ⟨value, hvalue, hembedded⟩
        have hlevel : level < n := h (Option.isSome_of_eq_some hdynamic)
        rw [unfold_embedded _ hvalue hembedded, unfold_embedded _ hvalue hembedded]
        simp [Nat.not_le.2 hlevel]
  | _ => rfl

/-- Beyond the limit an embedded template is refused. -/
theorem unfold_beyond (h : p.dynamic?.isSome = true) (hlevel : n ≤ p.level) :
    ∃ path, p.unfold d (some n) = .error (.tooDeep path maxDepth) := by
  obtain ⟨level, s, node⟩ := p
  cases node with
  | embedded v =>
    obtain ⟨text, hdynamic⟩ := Option.isSome_iff_exists.1 h
    obtain ⟨value, hvalue, hembedded⟩ := dynamic?_embedded.1 hdynamic
    refine ⟨v.path, ?_⟩
    rw [unfold_embedded _ hvalue hembedded]
    exact if_pos (decide_eq_true hlevel)
  | _ => cases h

/-- A step with a limit is one without, unless the limit refuses it. -/
theorem unfold_limit (d : Dialect) (n : Nat) (p : Pending) :
    p.unfold d (some n) = p.unfold d none ∨
    p.dynamic?.isSome = true ∧ n ≤ p.level ∧
      ∃ path, p.unfold d (some n) = .error (.tooDeep path maxDepth) := by
  by_cases h : p.dynamic?.isSome = true ∧ n ≤ p.level
  · exact .inr ⟨h.1, h.2, unfold_beyond h.1 h.2⟩
  · exact .inl (unfold_within fun hdynamic => Nat.lt_of_not_le fun hlevel => h ⟨hdynamic, hlevel⟩)

/-- A step goes no deeper than the limit. -/
theorem level_le_of_mem_unfold {parts : List Pending} (h : p.unfold d (some n) = .ok parts)
    (hp : p.level ≤ n) : ∀ q ∈ parts, q.level ≤ n := by
  intro q hq
  cases gives_of_mem_unfold h hq with
  | child | round => exact hp
  | template hlimit =>
    rw [Option.any_some, decide_eq_false_iff_not] at hlimit
    dsimp only
    omega

end Pending

/-! ## Walks with a limit and without one -/

/-- A walk goes no deeper than the limit. -/
theorem level_le_of_runs {start parts : List Pending} (h : Runs d (some n) start parts)
    (hstart : ∀ p ∈ start, p.level ≤ n) : ∀ p ∈ parts, p.level ≤ n := by
  induction h with
  | refl => exact hstart
  | tail _ hstep ih =>
    cases hstep with
    | unfold hparts =>
      obtain ⟨hp, hrest⟩ := List.forall_mem_cons.1 ih
      exact List.forall_mem_append.2 ⟨Pending.level_le_of_mem_unfold hparts hp, hrest⟩

/-- A step with a limit is one without. -/
theorem Advances.unlimited {before after : List Pending} (h : Advances d (some n) before after) :
    Advances d none before after := by
  obtain ⟨hparts⟩ := h
  rename_i p parts rest
  obtain heq | ⟨-, -, path, herror⟩ := p.unfold_limit d n
  · exact ⟨heq ▸ hparts⟩
  · cases herror.symm.trans hparts

/-- A walk without a limit stays within it, or is refused for its depth. -/
theorem Runs.limited {start parts : List Pending} (h : Runs d none start parts) :
    Runs d (some n) start parts ∨
      ∃ path, Stops d (some n) start (.tooDeep path maxDepth) := by
  induction h with
  | refl => exact .inl .refl
  | tail _ hstep ih =>
    obtain hrun | hstops := ih
    -- The next step is the same with the limit, unless the limit refuses it.
    · cases hstep with
      | @unfold p parts rest hparts =>
        obtain heq | ⟨-, -, path, herror⟩ := p.unfold_limit d n
        · exact .inl (hrun.tail ⟨heq.trans hparts⟩)
        · exact .inr ⟨path, p, rest, hrun, herror⟩
    · exact .inr hstops

/-- The walk with a limit is refused for its depth exactly if the walk without one comes to an
embedded template of a level behind the limit. -/
theorem exists_stops_tooDeep_iff {start : List Pending} (hstart : ∀ p ∈ start, p.level ≤ n) :
    (∃ path max, Stops d (some n) start (.tooDeep path max)) ↔ Reaches d start (n + 1) := by
  constructor
  · rintro ⟨path, max, p, rest, hrun, herror⟩
    obtain heq | ⟨hdynamic, hlevel, -⟩ := p.unfold_limit d n
    · exact absurd (heq.symm.trans herror) (p.shallow_unfold d path max)
    -- No step goes behind the limit, so the level of the node is the limit itself.
    · have hmost := level_le_of_runs hrun hstart p List.mem_cons_self
      have hunlimited : Runs d none start (p :: rest) :=
        Relation.ReflTransGen.mono (fun _ _ => Advances.unlimited) _ _ hrun
      exact ⟨p, rest, hunlimited, hdynamic, by omega⟩
  · rintro ⟨p, rest, hrun, hdynamic, hlevel⟩
    obtain hlimited | ⟨path, hstops⟩ := hrun.limited (n := n)
    · obtain ⟨path, herror⟩ := Pending.unfold_beyond (d := d) hdynamic (n := n) (by omega)
      exact ⟨path, maxDepth, p, rest, hlimited, herror⟩
    · exact ⟨path, maxDepth, hstops⟩

/-! ## Templates -/

namespace Template

variable (t : Template) (place : Place) (earlier : List Evaluation) (d : Dialect)
  (rootAlias : String) (parameters : Parameters)

/-- Whatever a template embeds, and whatever its variables remember from earlier evaluations, its
walk within the limit ends, and its evaluation comes to what the walk ends with. It is refused for
its depth exactly if the walk comes to an embedded template of the ninth level. -/
theorem evaluateAt_depth :
    Acc (fun after before => Advances d (some maxDepth) before after)
      (t.agenda rootAlias parameters) ∧
    let outcome := ((t.evaluateAt place d rootAlias parameters).run (t.memoryAfter place earlier)).1
    let start := t.agenda rootAlias parameters
    ((∃ statement, outcome = .ok statement) ↔ Runs d (some maxDepth) start []) ∧
    (∀ e, outcome = .error e ↔ Stops d (some maxDepth) start e) ∧
    ((∃ path max, outcome = .error (.tooDeep path max)) ↔ Reaches d start 9) := by
  -- What the variables remember makes no difference, so the walk is the one of the template alone.
  have houtcome := t.evaluateAt_memoryAfter place earlier d rootAlias parameters
  have hstart : ∀ p ∈ t.agenda rootAlias parameters, p.level ≤ maxDepth := by
    intro p hp
    obtain ⟨node, -, rfl⟩ := List.mem_map.1 hp
    exact Nat.zero_le _
  simp only [houtcome, t.exists_evaluate_iff d rootAlias parameters,
    t.evaluate_eq_error_iff d rootAlias parameters, implies_true, true_and]
  exact ⟨(wellFounded_advances d maxDepth).apply _, exists_stops_tooDeep_iff (n := 8) hstart⟩

/-- A value that embeds itself is refused for its depth, also where the variables on all levels
remember it from an earlier evaluation. The walk without a limit comes to the ninth level. -/
theorem evaluateAt_depth_self :
    let t : Template := ⟨[.embedded ⟨⟨"x", []⟩, {}, false⟩]⟩
    let parameters : Parameters := { properties := [("x", .string "/*$x*/")] }
    let earlier : List Evaluation := [⟨{}, "pmb", parameters⟩]
    let fault : RenderError := .tooDeep ⟨"x", []⟩ 8
    (t.memoryAfter [] earlier).length = 8 ∧
    ((t.evaluateAt [] {} "pmb" parameters).run (t.memoryAfter [] earlier)).1 = .error fault ∧
    Stops {} (some maxDepth) (t.agenda "pmb" parameters) fault ∧
    Reaches {} (t.agenda "pmb" parameters) 9 := by
  intro t parameters earlier fault
  obtain ⟨-, -, herror, hdeep⟩ := t.evaluateAt_depth [] earlier {} "pmb" parameters
  have hoption : ((t.evaluateAt [] {} "pmb" parameters).run
      (t.memoryAfter [] earlier)).1.map (fun _ => ()) = .error fault := by
    decide +kernel
  have hfault : ((t.evaluateAt [] {} "pmb" parameters).run (t.memoryAfter [] earlier)).1 =
      .error fault := by
    generalize ((t.evaluateAt [] {} "pmb" parameters).run _).1 = outcome at hoption ⊢
    cases outcome with
    | ok statement => cases hoption
    | error e => exact congrArg Except.error (Except.error.inj hoption)
  exact ⟨by decide +kernel, hfault, (herror fault).1 hfault, hdeep.1 ⟨_, _, hfault⟩⟩

end Template

end SqlTemplate
