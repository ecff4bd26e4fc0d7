import SqlTemplate.Scope

/-!
# Paths step by step

A path that is one segment longer leads one step further. `Value.below?` is such a step by itself:
null absorbs it, an object has the property or not, and nothing is below any other value. From the
value of a path, the values below it are reached by these steps alone (`Scope.resolve_append`),
whatever the path started at; a path that leads nowhere is not mended by what is added to it
(`Scope.resolve_append_of_notFound`).

Of the starts, the alias stands for the parameter object, so that it may as well be left out, and
the loop variable for the element of the innermost open round (`Scope.resolve_walk`).
-/

namespace SqlTemplate

/-- The value that a segment leads to from another one. -/
def Value.below? (segment : String) : Value → Option Value
  | .null => some .null
  | .object properties => NameMap.get? segment properties
  | _ => none

namespace Scope

variable {s : Scope} {path : Path} {v : Value}

/-- The value of a path, if it leads to one, and otherwise the fault that it is not found. -/
def found (s : Scope) (path : Path) : Option Value → Except ConditionError Value
  | some v => .ok v
  | none => .error (.notFound path s.parameters.typeName)

/-! ## Going down from a value -/

/-- Going down is one step and then the others. -/
theorem descend?_cons (v : Value) (segment : String) (rest : List String) :
    descend? v (segment :: rest) = (v.below? segment).bind fun child => descend? child rest := by
  have hnull : ∀ segments, descend? .null segments = some .null := fun segments => by
    cases segments <;> rfl
  -- Only an object is looked into; null answers for all segments at once.
  cases v with
  | null =>
    rw [hnull]
    exact (hnull rest).symm
  | object properties =>
    show (match NameMap.get? segment properties with
      | some child => descend? child rest
      | none => none) = (NameMap.get? segment properties).bind fun child => descend? child rest
    cases NameMap.get? segment properties <;> rfl
  | _ => rfl

/-- Segments one after the other are steps one after the other. -/
theorem descend?_eq_foldlM (v : Value) (segments : List String) :
    descend? v segments = segments.foldlM (fun v segment => v.below? segment) v := by
  induction segments generalizing v with
  | nil => rfl
  | cons segment rest ih =>
    rw [descend?_cons, List.foldlM_cons]
    exact congrArg (Option.bind (v.below? segment)) (funext ih)

/-- Further segments lead on from where the first ones lead. -/
theorem descend?_append (v : Value) (first second : List String) :
    descend? v (first ++ second) = (descend? v first).bind fun w => descend? w second := by
  simp only [descend?_eq_foldlM, List.foldlM_append]
  rfl

/-! ## Going down from a start -/

/-- Handing out an answer, or else the fault that there is none, is what `found` does. -/
theorem found_eq (s : Scope) (path : Path) (answer : Option Value) :
    (match answer with
      | some v => Except.ok v
      | none => .error (.notFound path s.parameters.typeName)) = s.found path answer := by
  cases answer <;> rfl

/-- A value is found if it is the answer. -/
theorem found_eq_ok_iff {answer : Option Value} :
    s.found path answer = .ok v ↔ answer = some v := by
  cases answer <;> simp [found]

/-- There is a fault if there is no answer, and it says so. -/
theorem found_eq_error_iff {answer : Option Value} {e : ConditionError} :
    s.found path answer = .error e ↔
      answer = none ∧ e = .notFound path s.parameters.typeName := by
  cases answer <;> simp [found, eq_comm]

/-- A path that starts at no alias goes down from what its root stands for. -/
theorem resolve_of_ne (h : path.root ≠ s.rootAlias) :
    s.resolve path =
      s.found path ((s.rootValue? path.root).bind fun v => descend? v path.below) := by
  rw [resolve, if_neg h]
  exact found_eq s path _

/-- A path that starts at the alias goes down from a property of the parameter object. -/
theorem resolve_alias_cons (s : Scope) (segment : String) (rest : List String) :
    s.resolve ⟨s.rootAlias, segment :: rest⟩ =
      s.found ⟨s.rootAlias, segment :: rest⟩
        ((s.parameters.get? segment).bind fun v => descend? v rest) := by
  rw [resolve, if_pos rfl]
  exact found_eq s _ _

/-- The alias alone stands for no value. -/
theorem resolve_alias_nil (s : Scope) :
    s.resolve ⟨s.rootAlias, []⟩ =
      .error (.mismatch (.wholeObject ⟨s.rootAlias, []⟩ s.parameters.typeName)) := by
  rw [resolve, if_pos rfl]

/-- Every path but the alias alone has an answer or none, and longer ones go down from there. -/
theorem exists_answer (h : path ≠ ⟨s.rootAlias, []⟩) :
    ∃ answer : Option Value, s.resolve path = s.found path answer ∧
      ∀ more, s.resolve ⟨path.root, path.below ++ more⟩ =
        s.found ⟨path.root, path.below ++ more⟩ (answer.bind fun v => descend? v more) := by
  obtain ⟨root, below⟩ := path
  by_cases hroot : root = s.rootAlias
  · subst hroot
    obtain ⟨segment, rest, rfl⟩ := List.exists_cons_of_ne_nil fun hnil => h (congrArg _ hnil)
    refine ⟨_, s.resolve_alias_cons segment rest, fun more => ?_⟩
    simp only [Option.bind_assoc, ← descend?_append]
    exact s.resolve_alias_cons segment (rest ++ more)
  · refine ⟨_, resolve_of_ne hroot, fun more => ?_⟩
    simp only [Option.bind_assoc, ← descend?_append]
    exact resolve_of_ne hroot

/-- From the value of a path, further segments lead on step by step. -/
theorem resolve_append (h : s.resolve path = .ok v) (more : List String) :
    s.resolve ⟨path.root, path.below ++ more⟩ =
      s.found ⟨path.root, path.below ++ more⟩
        (more.foldlM (fun v segment => v.below? segment) v) := by
  -- The alias alone has no value, so that the path goes down from some start.
  have hne : path ≠ ⟨s.rootAlias, []⟩ := by
    rintro rfl
    exact nomatch s.resolve_alias_nil.symm.trans h
  obtain ⟨answer, hanswer, hmore⟩ := exists_answer hne
  obtain rfl := found_eq_ok_iff.1 (hanswer.symm.trans h)
  rw [hmore, Option.bind_some, descend?_eq_foldlM]

/-- What is added to a path that is not found is not found, either. -/
theorem resolve_append_of_notFound {other : Path} {typeName : String}
    (h : s.resolve path = .error (.notFound other typeName)) (more : List String) :
    s.resolve ⟨path.root, path.below ++ more⟩ =
      .error (.notFound ⟨path.root, path.below ++ more⟩ s.parameters.typeName) := by
  have hne : path ≠ ⟨s.rootAlias, []⟩ := by
    rintro rfl
    exact nomatch s.resolve_alias_nil.symm.trans h
  obtain ⟨answer, hanswer, hmore⟩ := exists_answer hne
  obtain ⟨rfl, -⟩ := found_eq_error_iff.1 (hanswer.symm.trans h)
  rw [hmore, Option.bind_none, found_eq_error_iff]
  exact ⟨rfl, rfl⟩

/-! ## The starts -/

/-- A path from a property leads to the same from the alias. -/
theorem resolve_under_alias {q : Path} (halias : q.root ≠ s.rootAlias)
    (hloop : q.root ≠ loopVariable) :
    ∃ answer, s.resolve q = s.found q answer ∧
      s.resolve ⟨s.rootAlias, q.segments⟩ = s.found ⟨s.rootAlias, q.segments⟩ answer := by
  -- The root is a property of the parameter object, and so is the first segment behind the alias.
  refine ⟨_, resolve_of_ne halias, ?_⟩
  rw [rootValue?, if_neg hloop]
  exact s.resolve_alias_cons q.root q.below

/-- The loop variable stands for the element of the innermost round. -/
theorem resolve_loopVariable (halias : s.rootAlias ≠ loopVariable) :
    s.resolve ⟨loopVariable, []⟩ =
      s.found ⟨loopVariable, []⟩ (s.current?.map LoopFrame.element) := by
  rw [resolve_of_ne halias.symm, rootValue?, if_pos rfl]
  cases s.current? <;> rfl

/-- Paths are a walk from value to value: one segment more leads one step down from the value of a
path, in the same way wherever the path started, and not from nowhere to somewhere. A property is
reached by its name as it is behind the alias; and the loop variable is the element of the innermost
open round, outside of loops nothing. -/
theorem resolve_walk (s : Scope) (halias : s.rootAlias ≠ loopVariable) :
    (∀ (path : Path) (segment : String),
      (∀ v, s.resolve path = .ok v →
        s.resolve (path.child segment) = s.found (path.child segment) (v.below? segment)) ∧
      ∀ other typeName, s.resolve path = .error (.notFound other typeName) →
        s.resolve (path.child segment) =
          .error (.notFound (path.child segment) s.parameters.typeName)) ∧
    (∀ q : Path, q.root ≠ s.rootAlias → q.root ≠ loopVariable →
      ∃ answer, s.resolve q = s.found q answer ∧
        s.resolve ⟨s.rootAlias, q.segments⟩ = s.found ⟨s.rootAlias, q.segments⟩ answer) ∧
    s.resolve ⟨loopVariable, []⟩ =
      s.found ⟨loopVariable, []⟩ (s.current?.map LoopFrame.element) ∧
    ∀ frame, (s.enter frame).resolve ⟨loopVariable, []⟩ = .ok frame.element := by
  refine ⟨fun path segment => ⟨fun v h => ?_, fun _ _ h => resolve_append_of_notFound h [segment]⟩,
    fun q => resolve_under_alias, resolve_loopVariable halias,
    fun frame => resolve_loopVariable (s := s.enter frame) halias⟩
  have hone : [segment].foldlM (fun v segment => v.below? segment) v = v.below? segment :=
    bind_pure (v.below? segment)
  rw [← hone]
  exact resolve_append h [segment]

/-- Below a null, below the element of a round, and with the alias left out. -/
theorem resolve_walk_absorbed :
    let member : Value := .object [("address", .null)]
    let s : Scope := ⟨"pmb", { properties := [("member", member)] }, [⟨.string "a", 0, 1⟩]⟩
    s.rootAlias ≠ loopVariable ∧
      s.resolve ⟨"pmb", ["member", "address"]⟩ = .ok .null ∧
      s.resolve ⟨"pmb", ["member", "address", "city"]⟩ = .ok .null ∧
      s.resolve ⟨"#current", ["size"]⟩ =
        .error (.notFound ⟨"#current", ["size"]⟩ "ParameterObject") ∧
      ∃ answer, s.resolve ⟨"member", ["name"]⟩ = s.found ⟨"member", ["name"]⟩ answer ∧
        s.resolve ⟨"pmb", ["member", "name"]⟩ = s.found ⟨"pmb", ["member", "name"]⟩ answer := by
  intro member s
  have halias : s.rootAlias ≠ loopVariable := by decide
  have haddress : s.resolve ⟨"pmb", ["member", "address"]⟩ = .ok .null := rfl
  obtain ⟨hstep, hproperty, hloop, -⟩ := resolve_walk s halias
  exact ⟨halias, haddress, (hstep _ "city").1 _ haddress, (hstep _ "size").1 _ hloop,
    hproperty ⟨"member", ["name"]⟩ (by decide) (by decide)⟩

end Scope

end SqlTemplate
