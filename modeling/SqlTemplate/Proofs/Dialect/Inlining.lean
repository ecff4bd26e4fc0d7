import SqlTemplate.Dialect.Inline
import SqlTemplate.Proofs.Render.Steps
import SqlTemplate.Proofs.Render.Woven

/-!
# Binds in the place of their placeholders

Inlining a statement puts the literals of its values where their placeholders are.
`Buffer.Shows d f b b' shown` says that a step has added to a buffer what reads as `shown` once its
binds are inlined, whatever text and binds follow. Steps compose (`Shows.trans`), since a text
without the mark of the dialect is passed over and the next placeholder is the first one behind it.
`Variable.shows_of_pushBound` is what a bound variable shows of its value.

A function on values is applied before they are inlined, so that the binds of a statement can be
compared with those that another statement would have.
-/

namespace SqlTemplate

namespace Dialect

variable {d : Dialect} {position : Nat} {text : List Char}

/-- A text without the mark stays as it is. -/
theorem inlineFrom_text_append (h : d.marker ∉ text) (values : List Value) (after : List Char) :
    d.inlineFrom position values (text ++ after) = text ++ d.inlineFrom position values after := by
  -- Without values nothing is looked for; otherwise the next placeholder is behind the text.
  cases values with
  | nil => rfl
  | cons v rest =>
    obtain ⟨mark, hmark⟩ := d.placeholder_eq_marker_cons position
    rw [inlineFrom, inlineFrom, hmark, Text.splitAtFirst?_append h]
    cases Text.splitAtFirst? (d.marker :: mark) after with
    | none => rfl
    | some parts =>
      obtain ⟨before, behind⟩ := parts
      simp only [Option.map_some, List.append_assoc]

/-- A placeholder becomes the literal of its value. -/
theorem inlineFrom_placeholder_append (v : Value) (rest : List Value) (after : List Char) :
    d.inlineFrom position (v :: rest) ((d.placeholder position).toList ++ after) =
      (d.literal v).toList ++ d.inlineFrom (position + 1) rest after := by
  obtain ⟨mark, hmark⟩ := d.placeholder_eq_marker_cons position
  have hprefix : (d.marker :: mark).isPrefixOf (d.marker :: (mark ++ after)) = true :=
    List.isPrefixOf_iff_prefix.2 (List.prefix_append (d.marker :: mark) after)
  have hsplit : Text.splitAtFirst? (d.marker :: mark) (d.marker :: (mark ++ after)) =
      some ([], after) := by
    rw [Text.splitAtFirst?, if_pos hprefix]
    simp
  rw [inlineFrom, hmark, List.cons_append, hsplit]
  rfl

/-- What a bound variable writes for a value, with `f` of each bound value in its place: nothing for
null, and for a list its elements in parentheses. -/
def shown (d : Dialect) (f : Value → Value) : Value → String
  | .null => ""
  | .list [] => "(null)"
  | .list items => "(" ++ ", ".intercalate (items.map fun item => d.literal (f item)) ++ ")"
  | value => d.literal (f value)

/-- A scalar is shown by its literal. -/
theorem shown_scalar {value : Value} (hnull : value.isNull = false)
    (hcompound : value.isCompound = false) (f : Value → Value) :
    d.shown f value = d.literal (f value) := by
  cases value with
  | null => simp [Value.isNull] at hnull
  | list items => simp [Value.isCompound] at hcompound
  | _ => rfl

/-- A list is shown by the literals of its elements in parentheses. -/
theorem shown_list {items : List Value} (h : items ≠ []) (f : Value → Value) :
    d.shown f (.list items) =
      "(" ++ ", ".intercalate (items.map fun item => d.literal (f item)) ++ ")" := by
  cases items with
  | nil => exact absurd rfl h
  | cons => rfl

end Dialect

/-- A step has added what reads as `shown` with `f` of each bound value in the place of its
placeholder, whatever text and binds follow. -/
def Buffer.Shows (d : Dialect) (f : Value → Value) (b b' : Buffer) (shown : String) : Prop :=
  ∃ (text : String) (added : List Bind), b'.sql = b.sql ++ text ∧ b'.binds = b.binds ++ added ∧
    ∀ (rest : List Value) (after : List Char),
      d.inlineFrom (b.position + 1) (added.map (fun bind => f bind.value) ++ rest)
          (text.toList ++ after) =
        shown.toList ++ d.inlineFrom (b'.position + 1) rest after

namespace Buffer.Shows

variable {d : Dialect} {f : Value → Value} {b b₁ b₂ : Buffer} {shown shown₁ shown₂ : String}

/-- A step that does nothing shows nothing. -/
theorem refl (d : Dialect) (f : Value → Value) (b : Buffer) : Shows d f b b "" :=
  ⟨"", [], String.append_empty.symm, (List.append_nil _).symm, fun _ _ => rfl⟩

/-- Steps one after the other. -/
theorem trans (h₁ : Shows d f b b₁ shown₁) (h₂ : Shows d f b₁ b₂ shown₂) :
    Shows d f b b₂ (shown₁ ++ shown₂) := by
  obtain ⟨text₁, added₁, hsql₁, hbinds₁, hinline₁⟩ := h₁
  obtain ⟨text₂, added₂, hsql₂, hbinds₂, hinline₂⟩ := h₂
  refine ⟨text₁ ++ text₂, added₁ ++ added₂, ?_, ?_, fun rest after => ?_⟩
  · rw [hsql₂, hsql₁, String.append_assoc]
  · rw [hbinds₂, hbinds₁, List.append_assoc]
  · rw [String.toList_append, List.map_append, List.append_assoc, List.append_assoc, hinline₁,
      hinline₂, String.toList_append, List.append_assoc]

/-- A text without the mark is shown as it is. -/
theorem push (b : Buffer) {text : String} (h : d.marker ∉ text.toList) :
    Shows d f b (b.push text) text :=
  ⟨text, [], rfl, (List.append_nil _).symm, Dialect.inlineFrom_text_append h⟩

/-- A bind is shown as the literal of its value. -/
theorem pushBind (b : Buffer) (bind : Bind) :
    Shows d f b (b.pushBind d bind) (d.literal (f bind.value)) := by
  refine ⟨d.placeholder (b.position + 1), [bind], rfl, rfl, fun rest after => ?_⟩
  rw [position_pushBind]
  exact Dialect.inlineFrom_placeholder_append _ rest after

/-- A statement is inlined to what all its steps show together. -/
theorem inline_eq (h : Shows d f {} b shown) :
    String.ofList (d.inlineFrom 1 (b.toStatement.values.map f) b.toStatement.sql.toList) =
      shown := by
  obtain ⟨text, added, hsql, hbinds, hinline⟩ := h
  have hvalues : b.toStatement.values.map f = added.map (fun bind => f bind.value) ++ [] := by
    rw [List.append_nil, Statement.values, toStatement, hbinds, List.nil_append, List.map_map]
    rfl
  have htext : b.toStatement.sql.toList = text.toList ++ [] := by
    rw [List.append_nil, toStatement, hsql, String.empty_append]
  rw [hvalues, htext]
  exact (congrArg String.ofList (hinline [] [])).trans (by
    rw [Dialect.inlineFrom, List.append_nil, String.ofList_toList])

end Buffer.Shows

namespace Variable

open Dialect (marker_notMem)

variable {v : Variable} {d : Dialect} {f : Value → Value} {b b' : Buffer}

/-- An in-list shows the literals of its elements with commas between them; before an element that
is not the first one, a comma has been written. -/
theorem shows_of_pushItems {index : Nat} {item : Value} {rest : List Value}
    (h : v.pushItems d index (item :: rest) b = .ok b') :
    (if index = 0 then b else b.push ", ").Shows d f b'
      (", ".intercalate ((item :: rest).map fun item => d.literal (f item))) := by
  -- On the elements behind the first one, each of which comes with a comma.
  induction rest generalizing index item b with
  | nil =>
    obtain ⟨-, h⟩ := pushItems_cons_eq_ok.1 h
    rw [← Except.ok.inj h, List.map_singleton, String.intercalate_singleton]
    exact .pushBind _ (v.toBind item)
  | cons next rest ih =>
    obtain ⟨-, h⟩ := pushItems_cons_eq_ok.1 h
    generalize (if index = 0 then b else b.push ", ") = start at h ⊢
    let mid := start.pushBind d (v.toBind item)
    have hitem : start.Shows d f mid (d.literal (f item)) := .pushBind start (v.toBind item)
    have hcomma : mid.Shows d f (mid.push ", ") ", " := .push mid (marker_notMem (by decide))
    have hrest := ih h
    rw [if_neg (Nat.succ_ne_zero index)] at hrest
    rw [List.map_cons, List.map_cons, String.intercalate_cons_cons]
    exact (hitem.trans hcomma).trans hrest

/-- A variable that is bound shows its value. -/
theorem shows_of_pushBound {value : Value} (h : v.pushBound d value b = .ok b') :
    b.Shows d f b' (d.shown f value) := by
  rcases pushBound_eq_ok h with ⟨rfl, rfl⟩ | ⟨hnull, hcompound, rfl⟩ | ⟨rfl, rfl⟩ |
    ⟨items, inner, rfl, hne, -, hitems, rfl⟩
  · exact .refl d f b'
  · rw [Dialect.shown_scalar hnull hcompound]
    exact .pushBind b (v.toBind value)
  · exact .push b (marker_notMem (by decide))
  · rw [Dialect.shown_list hne]
    obtain ⟨item, rest, rfl⟩ := List.exists_cons_of_ne_nil hne
    have hopen : b.Shows d f (b.push "(") "(" := .push b (marker_notMem (by decide))
    have hclose : inner.Shows d f (inner.push ")") ")" := .push inner (marker_notMem (by decide))
    exact (hopen.trans (shows_of_pushItems hitems)).trans hclose

end Variable

end SqlTemplate
