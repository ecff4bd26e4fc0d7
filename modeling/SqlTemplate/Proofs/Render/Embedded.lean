import SqlTemplate.Proofs.Render.Woven
import SqlTemplate.Proofs.Value.Strings
import SqlTemplate.Render.Walk

/-!
# Embedded values and the mark of a placeholder

A value that is written into a statement brings the mark of a placeholder along only in a string of
its own: literals, quotes, commas and escapes add none. `marker_notMem_embeddedText` states this for
one value and `marker_notMem_intercalate` for the elements of an in-list.
-/

namespace SqlTemplate

namespace Dialect

variable {d : Dialect}

/-- Two texts without the mark are without it together. -/
theorem marker_notMem_append {s t : String} (hs : d.marker ∉ s.toList)
    (ht : d.marker ∉ t.toList) : d.marker ∉ (s ++ t).toList := by
  rw [String.toList_append, List.mem_append]
  exact not_or.2 ⟨hs, ht⟩

/-- A scalar is displayed without the mark unless it is a string that holds the mark. -/
theorem marker_notMem_display {v : Value} (hcompound : v.isCompound = false)
    (hstrings : ∀ s ∈ v.strings, d.marker ∉ s.toList) : d.marker ∉ v.display.toList := by
  cases v with
  | string s => exact hstrings s (List.mem_singleton_self s)
  | _ => exact marker_notMem_of_simple (Value.simple_display hcompound rfl)

/-- Escaping writes no character but the escaped one. -/
theorem eq_of_mem_escapeChar {c e : Char} (h : e ∈ d.escapeChar c) : e = c := by
  unfold escapeChar at h
  split_ifs at h with hquote hescape
  · simpa [hquote] using h
  · simpa [hescape.1] using h
  · exact List.mem_singleton.1 h

/-- The literal of a string without the mark is without it. -/
theorem marker_notMem_quote {s : String} (h : d.marker ∉ s.toList) :
    d.marker ∉ (d.quote s).toList := by
  have hquote : d.marker ∉ ['\''] := marker_notMem (by decide)
  rw [quote, String.toList_ofList, List.cons_append, ← List.singleton_append, List.mem_append,
    List.mem_append, List.mem_flatMap]
  rintro (hmem | ⟨c, hc, hmem⟩ | hmem)
  · exact hquote hmem
  · rw [eq_of_mem_escapeChar hmem] at h
    exact h hc
  · exact hquote hmem

/-- The literals of dates and timestamps are without the mark. -/
theorem marker_notMem_literal {word text : String} (hword : d.marker ∉ word.toList)
    (htext : Text.Simple text.toList) : d.marker ∉ (word ++ "'" ++ text ++ "'").toList := by
  have hquote : d.marker ∉ "'".toList := marker_notMem (by decide)
  refine marker_notMem_append (marker_notMem_append (marker_notMem_append hword hquote) ?_) hquote
  exact marker_notMem_of_simple htext

/-- The words before literals are without the mark. -/
theorem marker_notMem_literalWords :
    d.marker ∉ d.literalWords.1.toList ∧ d.marker ∉ d.literalWords.2.toList := by
  unfold literalWords
  cases d.kind <;> exact ⟨marker_notMem (by decide), marker_notMem (by decide)⟩

/-- Texts without the mark and commas between them are without it. -/
theorem marker_notMem_intercalate {texts : List String}
    (h : ∀ text ∈ texts, d.marker ∉ text.toList) :
    d.marker ∉ (", ".intercalate texts).toList := by
  -- On the list of texts, with a comma before each but the first.
  induction texts with
  | nil => exact List.not_mem_nil
  | cons text rest ih =>
    have htext := h text List.mem_cons_self
    have hrest := ih fun other hother => h other (List.mem_cons_of_mem _ hother)
    cases rest with
    | nil => rwa [String.intercalate_singleton]
    | cons other rest =>
      rw [String.intercalate_cons_cons]
      refine marker_notMem_append (marker_notMem_append htext ?_) hrest
      exact marker_notMem (by decide)

end Dialect

open Dialect

namespace Variable

/-- An embedded value is written without the mark if its strings are without it. -/
theorem marker_notMem_embeddedText {v : Variable} {d : Dialect} {value : Value}
    {text : String} (hstrings : ∀ s ∈ value.strings, d.marker ∉ s.toList)
    (h : v.embeddedText d value = .ok text) : d.marker ∉ text.toList := by
  unfold embeddedText at h
  split_ifs at h with hcompound hquoted
  -- A quoted value is the literal of its display; the others are written by their types.
  · obtain rfl := Except.ok.inj h
    exact marker_notMem_quote (marker_notMem_display (eq_false_of_ne_true hcompound) hstrings)
  · split at h
    · next date =>
      obtain rfl := Except.ok.inj h
      exact marker_notMem_literal marker_notMem_literalWords.1 date.simple_toText
    · next t =>
      obtain rfl := Except.ok.inj h
      exact marker_notMem_literal marker_notMem_literalWords.2 (Value.simple_timestampText t)
    · obtain rfl := Except.ok.inj h
      exact marker_notMem_display (eq_false_of_ne_true hcompound) hstrings

end Variable

end SqlTemplate
