import Mathlib.Data.List.Infix
import SqlTemplate.Proofs.Outcome
import SqlTemplate.Render.Walk

/-!
# What a step of the evaluation does

A step that succeeds is taken apart into the cases that it distinguishes, each with the checks that
were passed and the buffer that comes out: what a variable asks to be written (`demand_eq_ok`), how
a variable is bound (`pushBound_eq_ok`) or embedded (`pushEmbedded_eq_ok`), and what a loop runs
over (`loopItems_eq_ok`). Parts that stand one after the other are walked in that order
(`walkAll_append`). Which values are templates of their own is said by `dynamicText?`, without the
tests that the evaluation makes.
-/

namespace SqlTemplate

namespace Variable

variable {v : Variable} {d : Dialect} {b b' : Buffer} {value : Value}

/-- A variable asks for nothing, for a scalar or for the elements of an in-list. -/
theorem demand_eq_ok {demand : Demand} (h : v.demand value = .ok demand) :
    (value = .null ∧ v.nullDisallowed = false ∧ demand = .nothing) ∨
    (value.isNull = false ∧ value.isCompound = false ∧ v.test.inList = false ∧
      demand = .scalar value) ∨
    ∃ items, value = .list items ∧ v.test.inList = true ∧ demand = .items items := by
  -- The value decides first; only lists and scalars look at the form of the test value.
  cases value with
  | null =>
    simp only [Variable.demand] at h
    split at h
    · simp at h
    · next hnull => exact .inl ⟨rfl, eq_false_of_ne_true hnull, (Except.ok.inj h).symm⟩
  | list items =>
    cases hlist : v.test.inList with
    | true =>
      simp only [Variable.demand, hlist] at h
      exact .inr (.inr ⟨items, rfl, rfl, (Except.ok.inj h).symm⟩)
    | false => simp [Variable.demand, hlist] at h
  | object properties => simp [Variable.demand] at h
  | bool | integer | decimal | string | date | timestamp =>
    cases hlist : v.test.inList with
    | true => simp [Variable.demand, hlist] at h
    | false =>
      simp only [Variable.demand, hlist] at h
      exact .inr (.inl ⟨rfl, rfl, rfl, (Except.ok.inj h).symm⟩)

/-- An element of an in-list is bound if it is a scalar or null, with a comma before it unless it is
the first one, and then the others are. -/
theorem pushItems_cons_eq_ok {index : Nat} {item : Value} {rest : List Value} :
    v.pushItems d index (item :: rest) b = .ok b' ↔ item.isCompound = false ∧
      v.pushItems d (index + 1) rest
        ((if index = 0 then b else b.push ", ").pushBind d (v.toBind item)) = .ok b' := by
  rw [Variable.pushItems]
  cases item.isCompound with
  | true => simp
  | false => simp

/-- A variable that is bound writes nothing for null, one placeholder for a scalar, and for a list a
placeholder for each element. -/
theorem pushBound_eq_ok (h : v.pushBound d value b = .ok b') :
    (value = .null ∧ b' = b) ∨
    (value.isNull = false ∧ value.isCompound = false ∧ b' = b.pushBind d (v.toBind value)) ∨
    (value = .list [] ∧ b' = b.push "(null)") ∨
    ∃ items inner, value = .list items ∧ items ≠ [] ∧ v.checkSize d items.length = .ok () ∧
      v.pushItems d 0 items (b.push "(") = .ok inner ∧ b' = inner.push ")" := by
  obtain ⟨demand, hdemand, h⟩ := Outcome.bind_eq_ok.1 h
  -- On what the variable asks for: nothing, one bind, or those of a list.
  rcases demand_eq_ok hdemand with
    ⟨hnull, -, rfl⟩ | ⟨hnull, hcompound, -, rfl⟩ | ⟨items, rfl, -, rfl⟩
  · exact .inl ⟨hnull, (Except.ok.inj h).symm⟩
  · exact .inr (.inl ⟨hnull, hcompound, (Except.ok.inj h).symm⟩)
  · obtain ⟨⟨⟩, hsize, h⟩ := Outcome.bind_eq_ok.1 h
    split at h
    · next hempty =>
      rw [List.isEmpty_iff.1 hempty]
      exact .inr (.inr (.inl ⟨rfl, (Except.ok.inj h).symm⟩))
    · next hempty =>
      obtain ⟨inner, hitems, h⟩ := Outcome.bind_eq_ok.1 h
      rw [List.isEmpty_iff] at hempty
      exact .inr (.inr (.inr ⟨items, inner, rfl, hempty, hsize, hitems, (Except.ok.inj h).symm⟩))

/-- The text of the template that the value is, where the variable embeds it: a string with the
start of a comment anywhere in it, if the test value is neither quoted nor a list. -/
def dynamicText? (v : Variable) : Value → Option String
  | .string text =>
    if v.test.quoted = false ∧ v.test.inList = false ∧ ['/', '*'] <:+: text.toList then some text
    else none
  | _ => none

/-- A comment is found where its start stands anywhere in the text. -/
theorem holdsComment_iff (cs : List Char) : holdsComment cs = true ↔ ['/', '*'] <:+: cs := by
  fun_induction holdsComment cs with
  | case1 => simp
  | case2 cs => simpa using (List.prefix_append ['/', '*'] cs).isInfix
  | case3 c cs hstart ih =>
    -- The start of the text is no start of a comment, so that one stands in the rest.
    have hprefix : ¬ ['/', '*'] <+: c :: cs := by
      rintro ⟨rest, hrest⟩
      obtain ⟨rfl, htail⟩ := List.cons.inj hrest
      exact hstart rest rfl htail.symm
    rw [List.infix_cons_iff, or_iff_right hprefix, ih]

/-- For a test value that is no list, the values that the evaluation takes for templates are these
strings. -/
theorem templateText?_eq_dynamicText? (hlist : v.test.inList = false) (value : Value) :
    v.templateText? value = v.dynamicText? value := by
  cases value with
  | string text =>
    simp only [templateText?, dynamicText?, Bool.and_eq_true, Bool.not_eq_true', holdsComment_iff,
      hlist, true_and]
  | _ => rfl

/-- A value that is a template of its own is a string. -/
theorem eq_string_of_dynamicText? {text : String} (h : v.dynamicText? value = some text) :
    value = .string text := by
  unfold dynamicText? at h
  split at h
  · split_ifs at h
    rw [Option.some.inj h]
  · simp at h

/-- A variable that is embedded writes nothing for null, a template of its own for a string that
holds one, and texts for all other values. -/
theorem pushEmbedded_eq_ok {expand : String → Step} (h : v.pushEmbedded d expand value b = .ok b') :
    (value = .null ∧ b' = b) ∨
    (∃ text, v.dynamicText? value = some text ∧ expand text b = .ok b') ∨
    (∃ text, v.dynamicText? value = none ∧ v.embeddedText d value = .ok text ∧
      b' = b.push text) ∨
    (value = .list [] ∧ b' = b.push "(null)") ∨
    ∃ items texts, value = .list items ∧ items ≠ [] ∧ v.checkSize d items.length = .ok () ∧
      items.mapM (v.embeddedText d) = .ok texts ∧
      b' = b.push ("(" ++ ", ".intercalate texts ++ ")") := by
  obtain ⟨demand, hdemand, h⟩ := Outcome.bind_eq_ok.1 h
  -- On what the variable asks for: nothing, one text, or those of a list.
  rcases demand_eq_ok hdemand with ⟨hnull, -, rfl⟩ | ⟨-, -, hlist, rfl⟩ | ⟨items, rfl, -, rfl⟩
  · exact .inl ⟨hnull, (Except.ok.inj h).symm⟩
  · dsimp only at h
    rw [templateText?_eq_dynamicText? hlist] at h
    split at h
    · next text htext => exact .inr (.inl ⟨text, htext, h⟩)
    · next htext =>
      obtain ⟨text, hembedded, h⟩ := Outcome.bind_eq_ok.1 h
      exact .inr (.inr (.inl ⟨text, htext, hembedded, (Except.ok.inj h).symm⟩))
  · obtain ⟨⟨⟩, hsize, h⟩ := Outcome.bind_eq_ok.1 h
    split at h
    · next hempty =>
      rw [List.isEmpty_iff.1 hempty]
      exact .inr (.inr (.inr (.inl ⟨rfl, (Except.ok.inj h).symm⟩)))
    · next hempty =>
      obtain ⟨texts, htexts, h⟩ := Outcome.bind_eq_ok.1 h
      rw [List.isEmpty_iff] at hempty
      exact .inr (.inr (.inr (.inr
        ⟨items, texts, rfl, hempty, hsize, htexts, (Except.ok.inj h).symm⟩)))

end Variable

namespace Scope

/-- The value that a step asks for is the one that the path resolves to. -/
theorem valueOf_eq_ok {s : Scope} {path : Path} {value : Value} :
    s.valueOf path = .ok value ↔ s.resolve path = .ok value :=
  Outcome.mapError_eq_ok

/-- A loop runs over the elements of a list, and over none for null. -/
theorem loopItems_eq_ok {s : Scope} {path : Path} {items : List Value}
    (h : s.loopItems path = .ok items) :
    (s.resolve path = .ok .null ∧ items = []) ∨ s.resolve path = .ok (.list items) := by
  obtain ⟨value, hvalue, h⟩ := Outcome.bind_eq_ok.1 h
  rw [valueOf_eq_ok] at hvalue
  split at h
  · exact .inl ⟨hvalue, (Except.ok.inj h).symm⟩
  · obtain rfl := Except.ok.inj h
    exact .inr hvalue
  · simp [throw, throwThe, MonadExceptOf.throw] at h

end Scope

namespace Node

/-- Parts one after the other are walked one after the other. -/
theorem walkAll_append (d : Dialect) (expand : Expansion) (s : Scope) (nodes rest : List Node)
    (b : Buffer) :
    walkAll d expand s (nodes ++ rest) b =
      walkAll d expand s nodes b >>= walkAll d expand s rest := by
  induction nodes generalizing b with
  | nil => rfl
  | cons node nodes ih =>
    show node.walk d expand s b >>= walkAll d expand s (nodes ++ rest) =
      (node.walk d expand s b >>= walkAll d expand s nodes) >>= walkAll d expand s rest
    rw [bind_assoc, funext ih]

/-- A single part is walked by itself. -/
theorem walkAll_singleton (d : Dialect) (expand : Expansion) (s : Scope) (node : Node)
    (b : Buffer) : walkAll d expand s [node] b = node.walk d expand s b :=
  bind_pure _

end Node

end SqlTemplate
