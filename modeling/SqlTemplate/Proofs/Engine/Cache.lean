import Mathlib.Data.List.DropRight
import SqlTemplate.Proofs.Engine.Session

/-!
# What an engine keeps

Caching does not show in the answers and is bounded. `Session.run_caching` says so of every
sequence of calls: an engine in use answers as a new one does, what it keeps are the first distinct
texts since it was last cleared, as many as the cache may hold, and a text that is parsed again
without a clearing in between comes to the very same tree if it is one of those, and only then.

The texts that are kept follow the calls step by step (`Session.keeps_run`). For the trees, one
tells apart whether a text is kept after its first parse (`Engine.cached?_parse`): if so, no call
but clearing removes it (`Session.cached?_foldl_after`); if not, the cache is full, and no such call
changes it any more (`Session.cache_foldl_after`).
-/

namespace SqlTemplate

namespace Engine

/-- The call does not clear the cache. -/
def Call.keepsCache : Call → Bool
  | clear => false
  | _ => true

/-- Every call but one keeps the cache. -/
theorem Call.keepsCache_of_ne {c : Call} (h : c ≠ .clear) : c.keepsCache = true := by
  cases c with
  | clear => exact absurd rfl h
  | _ => rfl

/-- The distinct texts that have been parsed or rendered since the cache was last cleared, in the
order in which they came first. -/
def seenTexts (calls : List Call) : List String :=
  ((calls.rtakeWhile Call.keepsCache).filterMap Call.text?).eraseDups

/-- A further text is new only if it has not been seen before. -/
theorem eraseDups_snoc (texts : List String) (text : String) :
    (texts ++ [text]).eraseDups =
      if text ∈ texts.eraseDups then texts.eraseDups else texts.eraseDups ++ [text] := by
  rw [List.eraseDups_append]
  by_cases hmem : text ∈ texts
  · rw [if_pos (List.mem_eraseDups.2 hmem)]
    simp [List.removeAll, hmem]
  · rw [if_neg (List.mem_eraseDups.not.2 hmem)]
    simp [List.removeAll, hmem, List.eraseDups_cons]

/-- Clearing forgets every text. -/
theorem seenTexts_clear (calls : List Call) : seenTexts (calls ++ [.clear]) = [] := by
  rw [seenTexts, List.rtakeWhile_concat_neg _ _ _ Bool.false_ne_true]
  rfl

/-- A call without a text adds none. -/
theorem seenTexts_snoc_of_none {calls : List Call} {c : Call} (hc : c ≠ .clear)
    (htext : c.text? = none) : seenTexts (calls ++ [c]) = seenTexts calls := by
  rw [seenTexts, List.rtakeWhile_concat_pos _ _ _ (Call.keepsCache_of_ne hc), List.filterMap_append,
    List.filterMap_cons_none htext, List.filterMap_nil, List.append_nil]
  rfl

/-- A call with a text adds it, unless it has been seen. -/
theorem seenTexts_snoc_of_some {calls : List Call} {c : Call} {text : String}
    (htext : c.text? = some text) :
    seenTexts (calls ++ [c]) =
      if text ∈ seenTexts calls then seenTexts calls else seenTexts calls ++ [text] := by
  have hc : c ≠ .clear := fun h => by simp [h, Call.text?] at htext
  rw [seenTexts, List.rtakeWhile_concat_pos _ _ _ (Call.keepsCache_of_ne hc), List.filterMap_append,
    List.filterMap_cons_some htext, List.filterMap_nil, eraseDups_snoc]
  rfl

/-! ## The texts that are kept -/

variable {e : Engine} {text : String}

/-- A text is looked up with success if it is kept. -/
theorem cached?_isSome_iff : (e.cached? text).isSome = true ↔ text ∈ e.cache.map Prod.fst := by
  simp [cached?]

/-- A text has no entry exactly if it is not among the texts of the cache. -/
theorem cached?_eq_none_iff : e.cached? text = none ↔ text ∉ e.cache.map Prod.fst := by
  rw [← cached?_isSome_iff, Bool.not_eq_true, Option.isSome_eq_false_iff, Option.isNone_iff_eq_none]

/-- The texts that are kept are the first ones that have been seen, as many as there is room for. -/
def Keeps (e : Engine) (seen : List String) : Prop :=
  e.cache.map Prod.fst = seen.take e.config.cacheCapacity

/-- One more text. -/
theorem Keeps.parse {seen : List String} (h : e.Keeps seen) (text : String) :
    (e.parse text).2.Keeps (if text ∈ seen then seen else seen ++ [text]) := by
  have hlength : e.cache.length = min e.config.cacheCapacity seen.length := by
    rw [← List.length_map (f := Prod.fst), h, List.length_take]
  rcases e.parse_cases text with ⟨outcome, hcached, hparse⟩ | ⟨hnone, hroom, hparse⟩ |
    ⟨-, hfull, hparse⟩
  · -- What is kept has been seen.
    have hmem : text ∈ e.cache.map Prod.fst := cached?_isSome_iff.1 (by rw [hcached]; rfl)
    rw [h] at hmem
    rwa [hparse, if_pos (List.mem_of_mem_take hmem)]
  · -- Where there is room, all that has been seen is kept.
    have hall : seen.take e.config.cacheCapacity = seen := List.take_of_length_le (by omega)
    have hkept := cached?_eq_none_iff.1 hnone
    rw [h, hall] at hkept
    rw [hparse, if_neg hkept]
    show (e.cache ++ [(text, e.parseAnew text)]).map Prod.fst = _
    rw [List.map_append, h, hall, List.take_of_length_le (by simp; omega)]
    rfl
  · rw [hparse]
    show e.cache.map Prod.fst = List.take e.config.cacheCapacity _
    split_ifs
    · exact h
    · rw [h, List.take_append_of_le_length (by omega)]

/-! ## Trees that are obtained again -/

/-- Parsing leaves the configuration alone. -/
theorem config_parse (e : Engine) (text : String) : (e.parse text).2.config = e.config := by
  rcases e.parse_cases text with ⟨_, -, hparse⟩ | ⟨-, -, hparse⟩ | ⟨-, -, hparse⟩ <;> rw [hparse]

/-- A text with an entry is answered from it. -/
theorem parse_of_cached?_some {outcome : ParseOutcome} (h : e.cached? text = some outcome) :
    (e.parse text).1 = outcome := by
  rw [parse, h]

/-- A text without an entry is parsed anew. -/
theorem parse_of_cached?_none (h : e.cached? text = none) :
    (e.parse text).1 = e.parseAnew text := by
  rw [parse, h]

/-- A text that has been parsed is kept, or else the cache is full and its tree is a new one. -/
theorem cached?_parse (e : Engine) (text : String) :
    (e.parse text).2.cached? text = some (e.parse text).1 ∨
    ((e.parse text).2.cached? text = none ∧
      (e.parse text).2.config.cacheCapacity ≤ (e.parse text).2.cache.length ∧
      (e.parse text).1 = e.parseAnew text ∧ (e.parse text).2.parses = e.parses + 1) := by
  rcases e.parse_cases text with ⟨outcome, hcached, hparse⟩ | ⟨hnone, -, hparse⟩ |
    ⟨hnone, hfull, hparse⟩
  · rw [hparse]
    exact .inl hcached
  · rw [hparse]
    refine .inl ?_
    show Option.map Prod.snd ((e.cache ++ _).find? _) = _
    rw [List.find?_append, Option.map_eq_none_iff.1 hnone]
    simp
  · rw [hparse]
    exact .inr ⟨hnone, hfull, rfl, rfl⟩

/-- A new tree has the number of its parse. -/
theorem serial_of_parseAnew {tree : ParsedTemplate} (h : e.parseAnew text = .ok tree) :
    tree.serial = e.parses := by
  obtain ⟨template, -, rfl⟩ := Outcome.map_eq_ok.1 h
  rfl

/-- What is kept for a text stays when another one is parsed. -/
theorem cached?_parse_of_some {outcome : ParseOutcome} (h : e.cached? text = some outcome)
    (other : String) : (e.parse other).2.cached? text = some outcome := by
  rcases e.parse_cases other with ⟨_, -, hparse⟩ | ⟨-, -, hparse⟩ | ⟨-, -, hparse⟩
  · rwa [hparse]
  · obtain ⟨entry, hfind, rfl⟩ := Option.map_eq_some_iff.1 h
    rw [hparse]
    show Option.map Prod.snd ((e.cache ++ _).find? _) = _
    rw [List.find?_append, hfind]
    rfl
  · rw [hparse]
    exact h

/-- A full cache stays as it is, while the parses go on. -/
theorem cache_parse_of_full (h : e.config.cacheCapacity ≤ e.cache.length) (other : String) :
    (e.parse other).2.cache = e.cache ∧ e.parses ≤ (e.parse other).2.parses := by
  rcases e.parse_cases other with ⟨_, -, hparse⟩ | ⟨-, hroom, -⟩ | ⟨-, -, hparse⟩
  · rw [hparse]
    exact ⟨rfl, le_refl _⟩
  · omega
  · rw [hparse]
    exact ⟨rfl, Nat.le_succ _⟩

end Engine

/-! ## Sessions -/

namespace Session

open Engine

variable {config : Config} {s : Session} {calls : List Call}

/-- One more call. -/
theorem keeps_after (h : s.engine.Keeps (seenTexts calls)) (c : Call) :
    (s.after c).engine.Keeps (seenTexts (calls ++ [c])) := by
  by_cases hc : c = .clear
  · subst hc
    rw [seenTexts_clear]
    exact List.take_nil.symm
  · -- The memory plays no part in what is kept.
    obtain ⟨memory, hengine⟩ := s.engine_call hc
    rw [hengine]
    -- A call that reads no text leaves the cache as it was.
    show (s.engine.parsing c.text?).Keeps _
    cases htext : c.text? with
    | some text =>
      rw [seenTexts_snoc_of_some htext]
      exact h.parse text
    | none =>
      rw [seenTexts_snoc_of_none hc htext]
      exact h

/-- A new engine keeps what it must after every sequence of calls. -/
theorem keeps_run (config : Config) (calls : List Call) :
    (run config calls).engine.Keeps (seenTexts calls) := by
  induction calls using List.reverseRecOn with
  | nil => exact List.take_nil.symm
  | append_singleton calls c ih =>
    rw [run_snoc]
    exact keeps_after ih c

/-- What is kept for a text stays as long as the cache is not cleared. -/
theorem cached?_foldl_after {text : String} {outcome : ParseOutcome}
    (h : s.engine.cached? text = some outcome) (hcalls : ∀ c ∈ calls, c ≠ .clear) :
    (calls.foldl Session.after s).engine.cached? text = some outcome := by
  induction calls generalizing s with
  | nil => exact h
  | cons c calls ih =>
    obtain ⟨hc, hrest⟩ := List.forall_mem_cons.1 hcalls
    obtain ⟨memory, hengine⟩ := s.engine_call hc
    refine ih ?_ hrest
    rw [hengine]
    cases c.text? with
    | some other => exact cached?_parse_of_some h other
    | none => exact h

/-- A full cache stays as it is as long as it is not cleared, while the parses go on. -/
theorem cache_foldl_after (h : s.engine.config.cacheCapacity ≤ s.engine.cache.length)
    (hcalls : ∀ c ∈ calls, c ≠ .clear) :
    (calls.foldl Session.after s).engine.cache = s.engine.cache ∧
      s.engine.parses ≤ (calls.foldl Session.after s).engine.parses := by
  induction calls generalizing s with
  | nil => exact ⟨rfl, le_refl _⟩
  | cons c calls ih =>
    obtain ⟨hc, hrest⟩ := List.forall_mem_cons.1 hcalls
    obtain ⟨memory, hengine⟩ := s.engine_call hc
    -- No call adds to a full cache, and none lowers the number of parses.
    have hstep : (s.after c).engine.cache = s.engine.cache ∧
        s.engine.parses ≤ (s.after c).engine.parses ∧
        (s.after c).engine.config = s.engine.config := by
      rw [hengine]
      cases c.text? with
      | some other =>
        obtain ⟨hcache, hparses⟩ := cache_parse_of_full h other
        exact ⟨hcache, hparses, config_parse s.engine other⟩
      | none => exact ⟨rfl, le_refl _, rfl⟩
    obtain ⟨hcache, hparses, hconfig⟩ := hstep
    obtain ⟨hcache', hparses'⟩ := ih (by rwa [hcache, hconfig]) hrest
    exact ⟨hcache'.trans hcache, hparses.trans hparses'⟩

/-- A text that is parsed twice without a clearing in between comes to the very same tree if it is
kept, and only then. -/
theorem eq_iff_isSome_cached? {s' : Session} {text : String} {first second : ParsedTemplate}
    (hcalls : ∀ c ∈ calls, c ≠ .clear) (hs' : s' = calls.foldl after (s.after (.parse text)))
    (hfirst : (s.engine.parse text).1 = .ok first)
    (hsecond : (s'.engine.parse text).1 = .ok second) :
    first = second ↔ (s'.engine.cached? text).isSome = true := by
  have hengine : (s.after (.parse text)).engine = (s.engine.parse text).2 := rfl
  rcases s.engine.cached?_parse text with hkept | ⟨hnone, hfull, hanew, hparses⟩
  · -- The tree that is kept is looked up again.
    rw [hfirst, ← hengine] at hkept
    have hcached : s'.engine.cached? text = some (.ok first) := by
      rw [hs']
      exact cached?_foldl_after hkept hcalls
    rw [parse_of_cached?_some hcached, Except.ok.injEq] at hsecond
    simp [hcached, hsecond]
  · -- The text is parsed once more, with a number of its own.
    rw [← hengine] at hnone hfull hparses
    obtain ⟨hcache, hlater⟩ := cache_foldl_after hfull hcalls
    rw [← hs'] at hcache hlater
    have hcached : s'.engine.cached? text = none := by
      rw [cached?, hcache]
      exact hnone
    rw [parse_of_cached?_none hcached] at hsecond
    have hserial := serial_of_parseAnew (hanew ▸ hfirst)
    have hserial' := serial_of_parseAnew hsecond
    have hne : first ≠ second := fun heq => by
      rw [heq] at hserial
      omega
    simp [hcached, hne]

/-- Caching does not show in the answers and is bounded. After any calls, an engine answers each
further call as a new one with the same settings does, to which the trees are handed over; it keeps
the first distinct texts since its cache was last cleared, up to its capacity; and a text that is
parsed again before the next clearing comes to the very same tree if it is one of those, and only
then. -/
theorem run_caching (config : Config) (calls : List Call) :
    (∀ c, ((run config calls).answer c).forget =
      (answer ⟨{ config }, (run config calls).held⟩ c).forget) ∧
    ((run config calls).engine.cache.map Prod.fst =
        (seenTexts calls).take config.cacheCapacity ∧
      (run config calls).engine.cachedTemplates =
        min config.cacheCapacity (seenTexts calls).length) ∧
    ∀ text between first second, (∀ c ∈ between, c ≠ .clear) →
      (run config calls).answer (.parse text) = .parsed (.ok first) →
      (run config (calls ++ .parse text :: between)).answer (.parse text) =
        .parsed (.ok second) →
      (first = second ↔
        text ∈ (seenTexts (calls ++ .parse text :: between)).take config.cacheCapacity) := by
  have hsound := sound_run config calls
  -- What is kept is known after any calls, so also after those between two parses.
  have hkeeps : ∀ calls, (run config calls).engine.cache.map Prod.fst =
      (seenTexts calls).take config.cacheCapacity := fun calls => by
    have hconfig := (sound_run config calls).config
    have hrun := keeps_run config calls
    rwa [Keeps, hconfig] at hrun
  refine ⟨fun c => ?_, ⟨hkeeps calls, ?_⟩, ?_⟩
  · have hnew := sound_new config (run config calls).held fun tree htree => by
      have hnull : (run config calls).engine.nullDisallowed = Engine.nullDisallowed { config } :=
        nullDisallowed_congr hsound.config
      exact hnull ▸ hsound.held tree htree
    exact hsound.forget_answer_eq hnew rfl c
  · rw [cachedTemplates, ← List.length_map (f := Prod.fst), hkeeps, List.length_take]
  · intro text between first second hbetween hfirst hsecond
    rw [← hkeeps, ← cached?_isSome_iff]
    refine eq_iff_isSome_cached? hbetween ?_ (Answer.parsed.inj hfirst) (Answer.parsed.inj hsecond)
    rw [run, run, List.foldl_append, List.foldl_cons]

/-- Where there is room for one text only, a second one comes to a new tree each time. -/
theorem run_caching_full :
    (run { cacheCapacity := 1 } [.parse "a"]).answer (.parse "b") =
      .parsed (.ok ⟨1, ⟨[.literal "b"]⟩⟩) ∧
    (run { cacheCapacity := 1 } [.parse "a", .parse "b"]).answer (.parse "b") =
      .parsed (.ok ⟨2, ⟨[.literal "b"]⟩⟩) ∧
    "b" ∉ (seenTexts [.parse "a", .parse "b"]).take 1 := by
  have hskip : (NullPolicy.skip == NullPolicy.reject) = false := rfl
  have htokens : Token.ofText "b" = .ok [⟨.sql "b", 0⟩] := by decide +kernel
  have hb : Template.parse false "b" = .ok ⟨[.literal "b"]⟩ :=
    Template.parse_eq_ofTokens htokens false
  -- The one place is taken by another text, so this one gets a new number each time.
  have hfirst : (run { cacheCapacity := 1 } [.parse "a"]).answer (.parse "b") =
      .parsed (.ok ⟨1, ⟨[.literal "b"]⟩⟩) := by
    simp [run, after, answer, call, Engine.parse, cached?, parseAnew, nullDisallowed, hskip, hb,
      Except.map]
  have hsecond : (run { cacheCapacity := 1 } [.parse "a", .parse "b"]).answer (.parse "b") =
      .parsed (.ok ⟨2, ⟨[.literal "b"]⟩⟩) := by
    simp [run, after, answer, call, Engine.parse, cached?, parseAnew, nullDisallowed, hskip, hb,
      Except.map]
  obtain ⟨-, -, hsame⟩ := run_caching { cacheCapacity := 1 } [.parse "a"]
  have hnone : ∀ c ∈ ([] : List Call), c ≠ .clear := fun _ h => absurd h List.not_mem_nil
  have hiff := hsame "b" [] _ _ hnone hfirst hsecond
  exact ⟨hfirst, hsecond, fun hmem => absurd (hiff.2 hmem) (by simp)⟩

end Session

end SqlTemplate
