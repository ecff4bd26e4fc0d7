import SqlTemplate.Proofs.Render.Fragments
import SqlTemplate.Proofs.Statement.Counting

/-!
# Fragments that fit together

The count of placeholders reads a statement as one text, and a walk writes it fragment by fragment.
Fragments fit (`Fits`) if their text ends outside strings and comments and as many placeholders are
counted in it as they have binds. Fragments that fit make ones that fit (`Fits.append`), and so does
what pruning leaves of them (`Fits.pruned`).

This fails where a comment opens between two fragments, as between `-` and `- 1`. Such a place is a
seam (`Mode.HasSeam`). A seam stays one whatever else is written, so that fragments are said to fit
or to have a seam.
-/

namespace SqlTemplate

/-! ## Blanks and letters -/

namespace Mode

variable {s : Mode} {c : Char} {cs : List Char}

/-- Outside, a blank or a letter leads back to where the count starts. -/
theorem next_of_isBlankOrLetter (hs : s.isOutside = true) (hc : isBlankOrLetter c = true) :
    s.next c = code := by
  have hne : ∀ d, isBlankOrLetter d = false → c ≠ d := by
    rintro d hd rfl
    exact Bool.false_ne_true (hd.symm.trans hc)
  rw [next_eq hs (fun _ => hne _ (by decide)) fun _ => hne _ (by decide)]
  show behind c = code
  rw [behind, if_neg (hne _ (by decide)), if_neg (hne _ (by decide)), if_neg (hne _ (by decide))]

/-- Blanks and letters lead back to where the count starts, and none of them counts. -/
theorem counted_of_isBlankOrLetter (h : ∀ c ∈ cs, isBlankOrLetter c = true) :
    code.after cs = code ∧ code.counted cs = 0 := by
  constructor
  · induction cs with
    | nil => rfl
    | cons c cs ih =>
      obtain ⟨hc, hcs⟩ := List.forall_mem_cons.1 h
      rw [after_cons, next_of_isBlankOrLetter rfl hc]
      exact ih hcs
  · exact counted_of_notMem fun hmem => absurd (h _ hmem) (by decide)

end Mode

/-! ## Seams -/

namespace Mode

variable {s : Mode} {cs : List Char} {fragments more : List Fragment}

/-- The first character of the text opens a comment together with the last one read. -/
def Opens (s : Mode) (cs : List Char) : Prop :=
  (s = slash ∧ cs.head? = some '*') ∨ (s = dash ∧ cs.head? = some '-')

/-- The state and the first character decide. -/
instance (s : Mode) (cs : List Char) : Decidable (s.Opens cs) :=
  inferInstanceAs (Decidable (_ ∨ _))

/-- A fragment opens a comment together with the character before it. -/
def HasSeam : Mode → List Fragment → Prop
  | _, [] => False
  | s, f :: rest => s.Opens f.text ∨ (s.after f.text).HasSeam rest

/-- The seams are looked at one after the other. -/
instance decidableHasSeam : (s : Mode) → (fragments : List Fragment) →
    Decidable (s.HasSeam fragments)
  | _, [] => inferInstanceAs (Decidable False)
  | s, f :: rest =>
    have := decidableHasSeam (s.after f.text) rest
    inferInstanceAs (Decidable (_ ∨ _))

/-- No comment opens where the count starts. -/
theorem not_opens_code (cs : List Char) : ¬code.Opens cs := by
  rintro (⟨h, -⟩ | ⟨h, -⟩) <;> cases h

/-- Outside, a text that opens no comment is read as by itself. -/
theorem joins_of_not_opens (hs : s.isOutside = true) (h : ¬s.Opens cs) : s.Joins cs := by
  intro c hc
  refine next_eq hs ?_ ?_
  · rintro hslash rfl
    exact h (.inl ⟨hslash, hc⟩)
  · rintro hdash rfl
    exact h (.inr ⟨hdash, hc⟩)

/-- A seam is among the first fragments or among those behind. -/
theorem hasSeam_append : s.HasSeam (fragments ++ more) ↔
    s.HasSeam fragments ∨ (s.after (Fragment.join fragments)).HasSeam more := by
  induction fragments generalizing s with
  | nil => exact (iff_of_eq (false_or _)).symm
  | cons f rest ih =>
    rw [List.cons_append, HasSeam, HasSeam, ih, Fragment.join_cons, after_append, or_assoc]

/-- A comment that the text of fragments opens is opened by one of them. -/
theorem Opens.hasSeam (h : s.Opens (Fragment.join fragments)) : s.HasSeam fragments := by
  induction fragments with
  | nil => rcases h with ⟨-, h⟩ | ⟨-, h⟩ <;> cases h
  | cons f rest ih =>
    rw [Fragment.join_cons] at h
    -- An empty fragment is passed over.
    cases htext : f.text with
    | nil =>
      rw [htext] at h
      refine .inr ?_
      rw [htext]
      exact ih h
    | cons c cs =>
      rw [htext] at h
      refine .inl ?_
      rw [htext]
      exact h

/-- A seam is one behind anything that the fragments are read behind as by themselves. -/
theorem Joins.hasSeam (h : s.Joins (Fragment.join fragments)) (hseam : code.HasSeam fragments) :
    s.HasSeam fragments := by
  induction fragments with
  | nil => exact hseam
  | cons f rest ih =>
    rw [Fragment.join_cons] at h
    -- A first fragment leads to the same place as by itself, unless it is empty.
    refine .inr ?_
    have hrest := hseam.resolve_left (not_opens_code _)
    cases htext : f.text with
    | nil =>
      rw [htext] at h hrest
      exact ih h hrest
    | cons c cs =>
      rw [htext] at h hrest
      have hjoins : s.Joins (c :: cs) := h
      rwa [hjoins.after_eq (List.cons_ne_nil c cs)]

end Mode

/-! ## Fragments -/

/-- The fragments have a seam, or their text ends outside strings and comments and as many
placeholders are counted in it as they have binds. -/
def Fits (fragments : List Fragment) : Prop :=
  Mode.code.HasSeam fragments ∨
    (Mode.code.after (Fragment.join fragments)).isOutside = true ∧
      Mode.code.counted (Fragment.join fragments) = Fragment.total fragments

namespace Fits

variable {fragments more : List Fragment}

/-- Nothing at all fits. -/
theorem nil : Fits [] :=
  .inr ⟨rfl, rfl⟩

/-- A text without a bind fits if it ends outside and holds no question mark. -/
theorem plain {text : String} (houtside : (Mode.code.after text.toList).isOutside = true)
    (hquestion : '?' ∉ text.toList) : Fits [.plain text] := by
  refine .inr ?_
  rw [Fragment.join_cons, Fragment.join_nil, List.append_nil]
  exact ⟨houtside, Mode.counted_of_notMem hquestion⟩

/-- Fragments that fit make ones that fit. -/
theorem append (h : Fits fragments) (hmore : Fits more) : Fits (fragments ++ more) := by
  rw [Fits, Mode.hasSeam_append, Fragment.join_append, Fragment.total_append]
  rcases h with hseam | ⟨houtside, hcounted⟩
  · exact .inl (.inl hseam)
  -- Either the two texts meet in a comment mark, or each keeps the mode that it leads to alone.
  by_cases hopens : (Mode.code.after (Fragment.join fragments)).Opens (Fragment.join more)
  · exact .inl (.inr hopens.hasSeam)
  have hjoins := Mode.joins_of_not_opens houtside hopens
  rcases hmore with hseam | ⟨houtsideMore, hcountedMore⟩
  · exact .inl (.inr (hjoins.hasSeam hseam))
  · refine .inr ⟨?_, ?_⟩
    · rw [Mode.after_append]
      by_cases hempty : Fragment.join more = []
      · rwa [hempty]
      · rwa [hjoins.after_eq hempty]
    · rw [Mode.counted_append, hjoins.counted_eq, hcounted, hcountedMore]

/-- So do any number of them. -/
theorem flatMap {α : Type} {as : List α} {f : α → List Fragment} (h : ∀ a ∈ as, Fits (f a)) :
    Fits (as.flatMap f) := by
  induction as with
  | nil => exact nil
  | cons a rest ih =>
    obtain ⟨hfirst, hrest⟩ := List.forall_mem_cons.1 h
    rw [List.flatMap_cons]
    exact hfirst.append (ih hrest)

/-- What is written for a value that is bound fits. -/
theorem ofValue (value : Value) : Fits (Fragment.ofValue value) := by
  have hmark : Fits [.mark] := .inr ⟨rfl, rfl⟩
  have hcomma : Fits [.plain ", ", .mark] := .inr (by decide)
  cases value with
  | null => exact nil
  | list items =>
    cases items with
    | nil => exact plain (by decide) (by decide)
    | cons item rest =>
      have hopen : Fits [.plain "(", .mark] := .inr (by decide)
      have hclose : Fits [.plain ")"] := plain (by decide) (by decide)
      exact (hopen.append (flatMap fun _ _ => hcomma)).append hclose
  | _ => exact hmark

end Fits

/-! ## Pruning -/

/-- A seam is not in the blanks and letters that a text begins with, and so it is left if they are
dropped. -/
theorem Mode.HasSeam.dropChars {fragments : List Fragment} {start remaining : List Char}
    (h : code.HasSeam fragments) (hjoin : Fragment.join fragments = start ++ remaining)
    (hstart : ∀ c ∈ start, isBlankOrLetter c = true) :
    code.HasSeam (Fragment.dropChars start.length fragments) := by
  induction fragments generalizing start with
  | nil => exact h
  | cons f rest ih =>
    rw [Fragment.join_cons] at hjoin
    have hrest := h.resolve_left (not_opens_code _)
    refine .inr ?_
    rcases List.append_eq_append_iff.1 hjoin with ⟨gap, hgap, hjoin⟩ | ⟨gap, hgap, -⟩
    · -- The fragment is dropped, and the start goes on behind it.
      obtain ⟨htext, hgapPlain⟩ := List.forall_mem_append.1 (hgap ▸ hstart)
      rw [(counted_of_isBlankOrLetter htext).1] at hrest
      have hlength : start.length - f.text.length = gap.length := by
        rw [hgap, List.length_append, Nat.add_sub_cancel_left]
      have hdrop : f.text.drop start.length = [] :=
        List.drop_eq_nil_of_le (hgap ▸ List.length_append ▸ Nat.le_add_right _ _)
      rw [hlength, hdrop]
      exact ih hrest hjoin hgapPlain
    · -- The start ends in the fragment, behind which nothing is dropped.
      have hmode : code.after f.text = code.after gap := by
        rw [hgap, after_append, (counted_of_isBlankOrLetter hstart).1]
      have hlength : start.length - f.text.length = 0 := by
        rw [hgap, List.length_append]
        omega
      have hdrop : f.text.drop start.length = gap := by rw [hgap, List.drop_left]
      rw [hlength, Fragment.dropChars_zero, hdrop, ← hmode]
      exact hrest

/-- What a scope contributes fits if the scope did. -/
theorem Fits.pruned {fragments : List Fragment} (h : Fits fragments) :
    Fits (Fragment.pruned fragments) := by
  cases hprune : pruneChars (Fragment.join fragments) with
  | none =>
    rw [Fragment.pruned_eq_nil hprune]
    exact nil
  | some out =>
    rcases Fragment.pruned_eq hprune with heq | ⟨heq, hstart, hreduced⟩
    · rwa [heq]
    -- Both starts are plain, so that the rest is read in both texts as it is by itself.
    have hparts := (Opening.start_append_remaining (Fragment.join fragments)).symm
    obtain ⟨hmode, hcount⟩ := Mode.counted_of_isBlankOrLetter hstart
    obtain ⟨hmode', hcount'⟩ := Mode.counted_of_isBlankOrLetter hreduced
    rw [heq, Fits, Fragment.join_cons, Fragment.join_dropChars_start, Mode.after_append,
      Mode.counted_append, hmode', hcount', Fragment.total_cons, Fragment.total_dropChars]
    refine h.imp (fun hseam => .inr ?_) fun hcounted => ?_
    · rw [hmode']
      exact hseam.dropChars hparts hstart
    · rw [hparts, Mode.after_append, Mode.counted_append, hmode, hcount] at hcounted
      rwa [Nat.zero_add (Fragment.total fragments)]

end SqlTemplate
