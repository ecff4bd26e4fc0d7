import SqlTemplate.Dialect
import SqlTemplate.Proofs.Render.Pruning
import SqlTemplate.Proofs.Value.Display

/-!
# Texts woven with placeholders

The placeholders of a dialect are told from the rest of a statement by a mark, `Dialect.marker`.
`Woven d position n text` says that a text consists of the placeholders of `n` binds, counted on
from `position`, with texts without the mark around them; `Woven.exists_weave` writes such a text
out. Texts are woven piece by piece (`Woven.append`), and pruning takes no placeholder out of one
and keeps it woven (`Woven.of_prune`), since what it takes out holds no mark.
-/

namespace SqlTemplate

namespace Dialect

/-- The character that every placeholder of the dialect starts with. -/
def marker (d : Dialect) : Char :=
  match d.kind with
  | .postgres => '$'
  | .standard | .mysql | .oracle => '?'

/-- A text with the placeholders from `position` on in it: `head`, and then each text of the list
with a placeholder before it. -/
def weave (d : Dialect) : Nat → String → List String → String
  | _, head, [] => head
  | position, head, text :: rest =>
    head ++ d.placeholder position ++ d.weave (position + 1) text rest

/-- The mark is a dollar sign or a question mark. -/
theorem marker_eq (d : Dialect) : d.marker = '$' ∨ d.marker = '?' := by
  unfold marker
  cases d.kind <;> decide

/-- A text without either mark is without the mark of the dialect. -/
theorem marker_notMem {d : Dialect} {cs : List Char} (h : '$' ∉ cs ∧ '?' ∉ cs) :
    d.marker ∉ cs := by
  rcases d.marker_eq with hd | hd
  · rw [hd]; exact h.1
  · rw [hd]; exact h.2

/-- The mark is no simple character. -/
theorem marker_notMem_of_simple {d : Dialect} {cs : List Char} (h : Text.Simple cs) :
    d.marker ∉ cs := by
  refine marker_notMem ⟨?_, ?_⟩
  · intro hmem; exact absurd (h _ hmem) (by decide)
  · intro hmem; exact absurd (h _ hmem) (by decide)

/-- The mark is neither a blank nor a letter. -/
theorem marker_notMem_of_isBlankOrLetter {d : Dialect} {cs : List Char}
    (h : ∀ c ∈ cs, isBlankOrLetter c = true) : d.marker ∉ cs := by
  refine marker_notMem ⟨?_, ?_⟩
  · intro hmem; exact absurd (h _ hmem) (by decide)
  · intro hmem; exact absurd (h _ hmem) (by decide)

/-- A placeholder starts with the mark. -/
theorem placeholder_eq_marker_cons (d : Dialect) (position : Nat) :
    ∃ rest, (d.placeholder position).toList = d.marker :: rest := by
  obtain ⟨kind, limit⟩ := d
  cases kind with
  | postgres => exact ⟨(toString position).toList, by simp [placeholder, marker]⟩
  | standard | mysql | oracle => exact ⟨[], by simp [placeholder, marker]⟩

end Dialect

/-- The text holds the placeholders of `n` binds, counted on from `position`, and no other mark. -/
inductive Woven (d : Dialect) : Nat → Nat → List Char → Prop
  /-- A text without the mark. -/
  | text {position : Nat} {cs : List Char} (hcs : d.marker ∉ cs) : Woven d position 0 cs
  /-- A text without the mark, a placeholder and a woven text. -/
  | mark {position n : Nat} {cs rest : List Char} (hcs : d.marker ∉ cs)
      (hrest : Woven d (position + 1) n rest) :
      Woven d position (n + 1) (cs ++ (d.placeholder position).toList ++ rest)

namespace Woven

variable {d : Dialect} {position n k : Nat} {cs ds : List Char}

/-- A placeholder by itself. -/
theorem placeholder (d : Dialect) (position : Nat) :
    Woven d position 1 (d.placeholder position).toList := by
  have h : Woven d position 1 ([] ++ (d.placeholder position).toList ++ []) :=
    .mark List.not_mem_nil (.text List.not_mem_nil)
  rwa [List.nil_append, List.append_nil] at h

/-- A woven text with a text without the mark before it. -/
theorem text_append (hcs : d.marker ∉ cs) (h : Woven d position n ds) :
    Woven d position n (cs ++ ds) := by
  cases h with
  | text hds => exact .text (by rw [List.mem_append]; exact not_or.2 ⟨hcs, hds⟩)
  | mark hds hrest =>
    rw [← List.append_assoc, ← List.append_assoc]
    exact .mark (by rw [List.mem_append]; exact not_or.2 ⟨hcs, hds⟩) hrest

/-- Two woven texts of which the second goes on counting make one. -/
theorem append (hc : Woven d position n cs) (hd : Woven d (position + n) k ds) :
    Woven d position (n + k) (cs ++ ds) := by
  -- The first text is taken apart; each placeholder of it shifts where the second one starts.
  induction hc with
  | text hcs =>
    rw [Nat.zero_add]
    exact hd.text_append hcs
  | @mark position n cs rest hcs hrest ih =>
    rw [List.append_assoc, Nat.add_right_comm]
    refine .mark hcs (ih ?_)
    rwa [Nat.add_assoc, Nat.add_comm 1 n]

/-- A text without the mark holds no placeholder. -/
theorem eq_zero (h : Woven d position n cs) (hcs : d.marker ∉ cs) : n = 0 := by
  cases h with
  | text => rfl
  | mark hds hrest =>
    -- The mark that its first placeholder starts with would be in the text.
    obtain ⟨tail, htail⟩ := d.placeholder_eq_marker_cons position
    simp [htail] at hcs

/-- What is left of a woven text behind a start without the mark is woven. -/
theorem of_text_append (hcs : d.marker ∉ cs) (h : Woven d position n (cs ++ ds)) :
    Woven d position n ds := by
  generalize hwhole : cs ++ ds = whole at h
  cases h with
  | text hwholecs =>
    rw [← hwhole, List.mem_append, not_or] at hwholecs
    exact .text hwholecs.2
  | @mark _ n before rest hbefore hrest =>
    rw [List.append_assoc] at hwhole
    rcases List.append_eq_append_iff.1 hwhole with ⟨gap, hgap, htail⟩ | ⟨gap, hgap, htail⟩
    · -- The start ends before the first placeholder.
      rw [htail, ← List.append_assoc]
      refine .mark ?_ hrest
      rw [hgap, List.mem_append, not_or] at hbefore
      exact hbefore.2
    · -- It cannot reach into the placeholder, which starts with the mark.
      obtain ⟨tail, hmark⟩ := d.placeholder_eq_marker_cons position
      cases gap with
      | nil =>
        rw [List.nil_append] at htail
        rw [← htail]
        have hempty : d.marker ∉ ([] : List Char) := List.not_mem_nil
        exact .mark hempty hrest
      | cons c gap =>
        rw [hmark, List.cons_append, List.cons_append] at htail
        obtain ⟨rfl, -⟩ := List.cons.inj htail
        simp [hgap] at hcs

/-- A woven text written out. -/
theorem exists_weave {text : String} (h : Woven d position n text.toList) :
    ∃ head texts, texts.length = n ∧ (∀ t ∈ head :: texts, d.marker ∉ t.toList) ∧
      text = d.weave position head texts := by
  generalize hcs : text.toList = cs at h
  induction h generalizing text with
  | text hmark =>
    refine ⟨text, [], rfl, ?_, rfl⟩
    intro t ht
    obtain rfl := List.mem_singleton.1 ht
    rwa [hcs]
  | @mark position n before rest hbefore hrest ih =>
    -- The rest is woven of the further texts, and what stands before the mark is the first.
    obtain ⟨head, texts, hlength, hmarks, hrest⟩ := ih (String.toList_ofList (l := rest))
    refine ⟨String.ofList before, head :: texts, by rw [List.length_cons, hlength], ?_, ?_⟩
    · intro t ht
      rcases List.mem_cons.1 ht with rfl | ht
      · rwa [String.toList_ofList]
      · exact hmarks t ht
    · rw [Dialect.weave, ← hrest, ← String.toList_inj, hcs]
      simp only [String.toList_append, String.toList_ofList]

/-- A scope that vanishes holds no placeholder. -/
theorem eq_zero_of_prune_eq_none {text : String} (h : Woven d position n text.toList)
    (hprune : prune text = none) : n = 0 := by
  refine h.eq_zero (Dialect.marker_notMem_of_isBlankOrLetter ?_)
  exact isBlankOrLetter_of_pruneChars_eq_none (Option.map_eq_none_iff.1 hprune)

/-- What a scope contributes holds the placeholders that the scope held. -/
theorem of_prune {text out : String} (h : Woven d position n text.toList)
    (hprune : prune text = some out) : Woven d position n out.toList := by
  obtain ⟨cs, hcs, rfl⟩ := Option.map_eq_some_iff.1 hprune
  rw [String.toList_ofList]
  rcases pruneChars_eq_some hcs with rfl | ⟨rfl, hstart, hreduced⟩
  · exact h
  · -- The start that is taken out holds no mark, nor does the one that takes its place.
    rw [← Opening.start_append_remaining text.toList] at h
    have hremaining := h.of_text_append (Dialect.marker_notMem_of_isBlankOrLetter hstart)
    exact hremaining.text_append (Dialect.marker_notMem_of_isBlankOrLetter hreduced)

end Woven

end SqlTemplate
