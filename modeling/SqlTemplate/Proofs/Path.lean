import Mathlib.Tactic.SplitIfs
import SqlTemplate.Path

/-!
# Paths and their texts

A text spells a path if it splits at its points into segments none of which is empty, and then it
is the text of that path: `Path.parse?_eq_some_iff`.
-/

namespace SqlTemplate.Path

/-- Every segment of the path is some text without a point. -/
def IsDotted (p : Path) : Prop :=
  ∀ segment ∈ p.segments, segment ≠ "" ∧ '.' ∉ segment.toList

/-- The text starts with the root, and each further segment stands behind a point. -/
theorem toList_text (p : Path) :
    p.text.toList = p.root.toList ++ p.below.flatMap fun segment => '.' :: segment.toList := by
  obtain ⟨root, below⟩ := p
  rw [text, segments, String.toList_intercalate]
  induction below generalizing root with
  | nil => rw [List.map_cons, List.map_nil, List.intercalate_singleton, List.flatMap_nil,
      List.append_nil]
  | cons segment below ih =>
    have hrest := ih segment
    rw [List.map_cons] at hrest
    rw [List.map_cons, List.map_cons, List.intercalate_cons_cons, hrest]
    simp

/-- The pieces of a text, with points between them, are the text. -/
theorem pieces_append (cs : List Char) :
    (pieces cs).1 ++ (pieces cs).2.flatMap (fun piece => '.' :: piece) = cs := by
  induction cs with
  | nil => rfl
  | cons c cs ih =>
    simp only [pieces]
    split_ifs with hc
    · rw [List.nil_append, List.flatMap_cons, List.cons_append, ih, hc]
    · rw [List.cons_append, ih]

/-- No piece holds a point. -/
theorem point_notMem_pieces (cs : List Char) :
    ∀ piece ∈ (pieces cs).1 :: (pieces cs).2, '.' ∉ piece := by
  induction cs with
  | nil => simp [pieces]
  | cons c cs ih =>
    obtain ⟨hfirst, hrest⟩ := List.forall_mem_cons.1 ih
    simp only [pieces]
    split_ifs with hc
    · exact List.forall_mem_cons.2 ⟨List.not_mem_nil, ih⟩
    · refine List.forall_mem_cons.2 ⟨?_, hrest⟩
      exact List.not_mem_cons_of_ne_of_not_mem (Ne.symm hc) hfirst

/-- A text without a point is one piece. -/
theorem pieces_append_of_notMem {piece : List Char} (h : '.' ∉ piece) (cs : List Char) :
    pieces (piece ++ cs) = (piece ++ (pieces cs).1, (pieces cs).2) := by
  induction piece with
  | nil => rfl
  | cons c piece ih =>
    obtain ⟨hc, hpiece⟩ := List.ne_and_not_mem_of_not_mem_cons h
    rw [List.cons_append, pieces, ih hpiece]
    simp only [if_neg (Ne.symm hc), List.cons_append]

/-- Texts without a point are the pieces of what they make up. -/
theorem pieces_flatMap {first : List Char} {rest : List (List Char)}
    (h : ∀ piece ∈ first :: rest, '.' ∉ piece) :
    pieces (first ++ rest.flatMap fun piece => '.' :: piece) = (first, rest) := by
  induction rest generalizing first with
  | nil =>
    rw [pieces_append_of_notMem (h first List.mem_cons_self)]
    simp [pieces]
  | cons piece rest ih =>
    have hrest := ih fun other hother => h other (List.mem_cons_of_mem _ hother)
    rw [pieces_append_of_notMem (h first List.mem_cons_self), List.flatMap_cons, List.cons_append,
      pieces, hrest]
    simp

/-- A text spells a path if it splits at its points into the segments of this path. -/
theorem parse?_eq_some_iff {text : String} {p : Path} :
    parse? text = some p ↔ p.IsDotted ∧ p.text = text := by
  constructor
  · intro h
    -- The pieces lie between the dots: they hold none, and with dots between them they are the
    -- text.
    have hdots := point_notMem_pieces text.toList
    have htext := pieces_append text.toList
    rcases hpieces : pieces text.toList with ⟨root, below⟩
    simp only [parse?, hpieces] at h
    rw [hpieces] at hdots htext
    split_ifs at h with hempty
    obtain rfl := Option.some.inj h
    simp only [Bool.or_eq_true, List.isEmpty_iff, List.any_eq_true, not_or, not_exists,
      not_and] at hempty
    obtain ⟨hroot, hbelow⟩ := hempty
    refine ⟨List.forall_mem_cons.2 ⟨⟨?_, ?_⟩, fun segment hsegment => ?_⟩, ?_⟩
    · rwa [Ne, String.ofList_eq_empty_iff]
    · rw [String.toList_ofList]
      exact hdots root List.mem_cons_self
    · obtain ⟨piece, hpiece, rfl⟩ := List.mem_map.1 hsegment
      rw [String.toList_ofList, Ne, String.ofList_eq_empty_iff]
      exact ⟨hbelow piece hpiece, hdots piece (List.mem_cons_of_mem _ hpiece)⟩
    · rw [← String.toList_inj, toList_text, ← htext, String.toList_ofList, List.flatMap_map]
      simp
  · rintro ⟨hdotted, rfl⟩
    obtain ⟨root, below⟩ := p
    obtain ⟨⟨hroot, hrootDot⟩, hbelow⟩ := List.forall_mem_cons.1 hdotted
    -- The pieces of the text are the parts of the path, since no part holds a dot.
    have hpieces : pieces (text ⟨root, below⟩).toList = (root.toList, below.map String.toList) := by
      rw [toList_text, ← pieces_flatMap, List.flatMap_map]
      refine List.forall_mem_cons.2 ⟨hrootDot, fun piece hpiece => ?_⟩
      obtain ⟨segment, hsegment, rfl⟩ := List.mem_map.1 hpiece
      exact (hbelow segment hsegment).2
    have hfilled : (root.toList.isEmpty || (below.map String.toList).any List.isEmpty) = false := by
      rw [Bool.or_eq_false_iff, List.any_eq_false]
      refine ⟨by simpa using hroot, fun piece hpiece => ?_⟩
      obtain ⟨segment, hsegment, rfl⟩ := List.mem_map.1 hpiece
      simpa using (hbelow segment hsegment).1
    simp only [parse?, hpieces, hfilled]
    simp [Function.comp_def]

end SqlTemplate.Path
