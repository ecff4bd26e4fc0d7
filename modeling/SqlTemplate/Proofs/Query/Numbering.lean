import SqlTemplate.Query.Clause

/-!
# Numbering the marks of a clause

A clause is written with a mark for each bind, which becomes a placeholder once the clause has its
place in a statement. `Numbered d position binds text out` says that this turns `text` with its
`binds` into `out`, whatever text and binds follow; such texts are put together piece by piece
(`Numbered.append`), each of which either is without a mark or is a mark, and joined with a text
without a mark between them (`NumberedAll.intercalate`).
-/

namespace SqlTemplate

/-- The text with the binds becomes `out`, whatever text and binds follow. -/
def Numbered (d : Dialect) (position : Nat) (binds : List Bind) (text out : String) : Prop :=
  ∀ (rest : List Bind) (after : List Char),
    numberMarks d position (binds ++ rest) (text.toList ++ after) =
      (out.toList ++ (numberMarks d (position + binds.length) rest after).1,
        binds ++ (numberMarks d (position + binds.length) rest after).2)

namespace Numbered

variable {d : Dialect} {position : Nat} {binds more : List Bind} {text out tail outTail : String}

/-- A text without a mark stays as it is. -/
theorem plain (h : '?' ∉ text.toList) : Numbered d position [] text text := by
  intro rest after
  rw [List.nil_append, List.nil_append, List.length_nil, Nat.add_zero]
  -- Without further binds nothing is looked for; otherwise the next mark stands behind the text.
  cases rest with
  | nil => rfl
  | cons bind rest =>
    rw [numberMarks, numberMarks, Text.splitAtFirst?_append h]
    cases Text.splitAtFirst? ['?'] after with
    | none => rfl
    | some parts =>
      obtain ⟨before, behind⟩ := parts
      simp only [Option.map_some, List.append_assoc]

/-- A mark becomes the placeholder of its bind. -/
theorem mark (bind : Bind) : Numbered d position [bind] "?" (d.placeholder position) := by
  intro rest after
  rfl

/-- Texts one after the other. -/
theorem append (h : Numbered d position binds text out)
    (htail : Numbered d (position + binds.length) more tail outTail) :
    Numbered d position (binds ++ more) (text ++ tail) (out ++ outTail) := by
  intro rest after
  rw [String.toList_append, String.toList_append, List.append_assoc, List.append_assoc]
  -- The second text with what follows it is what follows the first one.
  rw [h (more ++ rest), htail rest]
  rw [List.length_append, Nat.add_assoc, List.append_assoc, List.append_assoc]

/-- A text that ends without a mark of its own. -/
theorem append_plain (h : Numbered d position binds text out) (htail : '?' ∉ tail.toList) :
    Numbered d position binds (text ++ tail) (out ++ tail) := by
  have happend := h.append (plain htail)
  rwa [List.append_nil] at happend

/-- A text that starts without a mark. -/
theorem plain_append (htext : '?' ∉ text.toList) (h : Numbered d position binds tail outTail) :
    Numbered d position binds (text ++ tail) (text ++ outTail) :=
  (plain htext).append h

/-- Where no binds follow, the text behind stays as it is. -/
theorem numberMarks_append (h : Numbered d position binds text out) (tail : String) :
    numberMarks d position binds (text ++ tail).toList = ((out ++ tail).toList, binds) := by
  have hall := h [] tail.toList
  rw [List.append_nil, numberMarks, List.append_nil] at hall
  rw [String.toList_append, String.toList_append]
  exact hall

/-- The text by itself. -/
theorem numberMarks_eq (h : Numbered d position binds text out) :
    numberMarks d position binds text.toList = (out.toList, binds) := by
  have hall := h.numberMarks_append ""
  rwa [String.append_empty, String.append_empty] at hall

end Numbered

/-- The texts with the binds, one after the other, become `outs`. -/
inductive NumberedAll (d : Dialect) : Nat → List Bind → List String → List String → Prop
  /-- No texts and no binds. -/
  | nil {position : Nat} : NumberedAll d position [] [] []
  /-- A text with its binds, and further texts. -/
  | cons {position : Nat} {binds more : List Bind} {text out : String} {texts outs : List String}
      (h : Numbered d position binds text out)
      (hrest : NumberedAll d (position + binds.length) more texts outs) :
      NumberedAll d position (binds ++ more) (text :: texts) (out :: outs)

/-- Joining texts joins what they become. -/
theorem NumberedAll.intercalate {d : Dialect} {position : Nat} {binds : List Bind}
    {texts outs : List String} (h : NumberedAll d position binds texts outs) {joiner : String}
    (hjoiner : '?' ∉ joiner.toList) :
    Numbered d position binds (joiner.intercalate texts) (joiner.intercalate outs) := by
  induction h with
  | nil => exact .plain List.not_mem_nil
  | cons hfirst hrest ih =>
    cases hrest with
    | nil =>
      rw [String.intercalate_singleton, String.intercalate_singleton, List.append_nil]
      exact hfirst
    | cons =>
      rw [String.intercalate_cons_cons, String.intercalate_cons_cons]
      exact (hfirst.append_plain hjoiner).append ih

/-! ## Any text

The marks are looked for in the whole text, whatever it is. -/

section AnyText

variable {d : Dialect} {position : Nat} {binds : List Bind} {text before : List Char}

/-- The first mark of a text gets the placeholder of the first bind. -/
theorem numberMarks_mark (h : '?' ∉ before) (bind : Bind) (rest : List Bind) (after : List Char) :
    numberMarks d position (bind :: rest) (before ++ '?' :: after) =
      (before ++ (d.placeholder position).toList ++ (numberMarks d (position + 1) rest after).1,
        bind :: (numberMarks d (position + 1) rest after).2) := by
  have hfirst : Text.splitAtFirst? ['?'] ('?' :: after) = some ([], after) := rfl
  rw [numberMarks, Text.splitAtFirst?_append h, hfirst, Option.map_some]
  simp only [List.append_nil]

/-- A text with as many marks as there are binds leaves out none of them. -/
theorem numberMarks_binds (h : binds.length ≤ text.count '?') :
    (numberMarks d position binds text).2 = binds := by
  induction binds generalizing position text with
  | nil => rfl
  | cons bind rest ih =>
    rw [List.length_cons] at h
    have hmem : '?' ∈ text := List.count_pos_iff.1 (Nat.lt_of_lt_of_le (Nat.succ_pos _) h)
    obtain ⟨before, after, rfl, hbefore⟩ := List.eq_append_cons_of_mem hmem
    rw [List.count_append, List.count_eq_zero_of_not_mem hbefore, List.count_cons_self] at h
    rw [numberMarks_mark hbefore, ih (by omega)]

/-- Where the placeholder is the mark itself, the text stays as it is. -/
theorem numberMarks_text (h : ∀ position, d.placeholder position = "?") :
    (numberMarks d position binds text).1 = text := by
  induction binds generalizing position text with
  | nil => rfl
  | cons bind rest ih =>
    by_cases hmem : '?' ∈ text
    · obtain ⟨before, after, rfl, hbefore⟩ := List.eq_append_cons_of_mem hmem
      rw [numberMarks_mark hbefore, ih, h, List.append_assoc]
      rfl
    · have hnone : Text.splitAtFirst? ['?'] (text ++ []) = _ := Text.splitAtFirst?_append hmem []
      rw [List.append_nil] at hnone
      rw [numberMarks, hnone]
      rfl

end AnyText

end SqlTemplate
