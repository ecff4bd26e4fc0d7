import SqlTemplate.Engine
import SqlTemplate.Proofs.Render.Recalling

/-!
# The use of an engine

An engine is used by a sequence of calls: a text is parsed or rendered, a tree that was obtained
before is evaluated, the cache is cleared. `Session` keeps the trees that were obtained with the
engine. What a call does to the cache is said once, in `Engine.parse_cases` and
`Session.engine_call`.

An engine is sound if what it keeps for a text, and what its variables remember, is what the text
parses to (`Engine.Sound`). A sound engine gives the answers of an engine that keeps nothing, and
stays sound, so that no call shows what was called before (`Session.forget_answer_eq`).
-/

namespace SqlTemplate

namespace Engine

/-- A call of an engine. -/
inductive Call where
  /-- A text is parsed. -/
  | parse (text : String)
  /-- A text is rendered. -/
  | render (text : String) (parameters : Parameters)
  /-- A tree is evaluated, the one that the parse at this place among those with a tree has come
  to. -/
  | evaluate (index : Nat) (parameters : Parameters)
  /-- The cache is cleared. -/
  | clear

/-- What a call answers. -/
inductive Answer where
  /-- A tree, or the fault of its text. -/
  | parsed (outcome : ParseOutcome)
  /-- A statement, or why there is none. -/
  | rendered (outcome : Except RenderError Statement)
  /-- There is no tree to be evaluated. -/
  | unknown
  /-- The cache has been cleared. -/
  | cleared

/-- The answer, but for the identity of a tree. -/
def Answer.forget : Answer → Answer
  | parsed outcome => parsed (outcome.map fun tree => { tree with serial := 0 })
  | answer => answer

/-- What is left of a parse is the tree without its identity. -/
theorem Answer.forget_parsed (outcome : ParseOutcome) :
    (parsed outcome).forget =
      parsed ((outcome.map ParsedTemplate.template).map fun template => ⟨0, template⟩) := by
  cases outcome <;> rfl

end Engine

/-- An engine in use. -/
structure Session where
  /-- The engine. -/
  engine : Engine
  /-- The trees that have been obtained, the first one first. -/
  held : List ParsedTemplate := []

namespace Session

open Engine

/-- What a call answers, and the session after it. -/
def call (s : Session) : Call → Answer × Session
  | .parse text =>
    let (outcome, engine) := s.engine.parse text
    (.parsed outcome, ⟨engine, s.held ++ outcome.toOption.toList⟩)
  | .render text parameters =>
    let (outcome, engine) := s.engine.render text parameters
    (.rendered outcome, { s with engine })
  | .evaluate index parameters =>
    match s.held[index]? with
    | some tree =>
      let (outcome, engine) := s.engine.evaluateParsed tree parameters
      (.rendered outcome, { s with engine })
    | none => (.unknown, s)
  | .clear => (.cleared, { s with engine := s.engine.clear })

/-- A template that is held is evaluated by the engine. -/
theorem call_evaluate_some {s : Session} {index : Nat} {tree : ParsedTemplate}
    (h : s.held[index]? = some tree) (parameters : Parameters) :
    s.call (.evaluate index parameters) =
      (.rendered (s.engine.evaluateParsed tree parameters).1,
        { s with engine := (s.engine.evaluateParsed tree parameters).2 }) := by
  simp only [call, h]

/-- There is no answer for a template that is not held. -/
theorem call_evaluate_none {s : Session} {index : Nat} (h : s.held[index]? = none)
    (parameters : Parameters) : s.call (.evaluate index parameters) = (.unknown, s) := by
  simp only [call, h]

/-- What a call answers. -/
def answer (s : Session) (c : Call) : Answer :=
  (s.call c).1

/-- The session after a call. -/
def after (s : Session) (c : Call) : Session :=
  (s.call c).2

/-- The session after calls, from a new engine on. -/
def run (config : Config) (calls : List Call) : Session :=
  calls.foldl after { engine := { config } }

/-- A further call is made after the others. -/
theorem run_snoc (config : Config) (calls : List Call) (c : Call) :
    run config (calls ++ [c]) = (run config calls).after c := by
  rw [run, List.foldl_append]
  rfl

end Session

/-! ## What a call does to the cache -/

namespace Engine

variable {e : Engine}

/-- A text that is kept is looked up, and any other is parsed; what it comes to is kept if there is
room. -/
theorem parse_cases (e : Engine) (text : String) :
    (∃ outcome, e.cached? text = some outcome ∧ e.parse text = (outcome, e)) ∨
    (e.cached? text = none ∧ e.cache.length < e.config.cacheCapacity ∧
      e.parse text = (e.parseAnew text, { e with
        cache := e.cache ++ [(text, e.parseAnew text)], parses := e.parses + 1 })) ∨
    (e.cached? text = none ∧ e.config.cacheCapacity ≤ e.cache.length ∧
      e.parse text = (e.parseAnew text, { e with parses := e.parses + 1 })) := by
  unfold parse
  cases hcached : e.cached? text with
  | some outcome => exact .inl ⟨outcome, rfl, rfl⟩
  | none =>
    by_cases hroom : e.cache.length < e.config.cacheCapacity
    · exact .inr (.inl ⟨rfl, hroom, by simp only [if_pos hroom]⟩)
    · exact .inr (.inr ⟨rfl, not_lt.1 hroom, by simp only [if_neg hroom]⟩)

/-- What is kept for a text is an entry of the cache. -/
theorem mem_cache_of_cached? {text : String} {outcome : ParseOutcome}
    (h : e.cached? text = some outcome) : (text, outcome) ∈ e.cache := by
  obtain ⟨⟨key, value⟩, hfind, rfl⟩ := Option.map_eq_some_iff.1 h
  have hkey := List.find?_some hfind
  rw [beq_iff_eq] at hkey
  dsimp only at hkey
  exact hkey ▸ List.mem_of_find?_eq_some hfind

/-- The engine once a text has been parsed, if there is one. -/
def parsing (e : Engine) : Option String → Engine
  | some text => (e.parse text).2
  | none => e

/-- The text that a call parses. -/
def Call.text? : Call → Option String
  | parse text | render text _ => some text
  | _ => none

end Engine

open Engine in
/-- A call other than clearing does to the engine what parsing its text does, but for what the
variables remember. -/
theorem Session.engine_call (s : Session) {c : Call} (hc : c ≠ .clear) :
    ∃ memory, (s.after c).engine = { s.engine.parsing c.text? with memory } := by
  cases c with
  | parse text => exact ⟨_, rfl⟩
  | render text parameters =>
    show ∃ memory, (s.engine.render text parameters).2 = { (s.engine.parse text).2 with memory }
    unfold Engine.render
    -- A text is looked up first; what is evaluated then touches the memory alone.
    rcases s.engine.parse text with ⟨outcome, e⟩
    cases outcome with
    | ok tree => exact ⟨_, rfl⟩
    | error fault => exact ⟨_, rfl⟩
  | evaluate index parameters =>
    cases htree : s.held[index]? with
    | some tree =>
      rw [Session.after, Session.call_evaluate_some htree]
      exact ⟨_, rfl⟩
    | none =>
      rw [Session.after, Session.call_evaluate_none htree]
      exact ⟨_, rfl⟩
  | clear => exact absurd rfl hc

/-! ## Sound engines -/

namespace Engine

/-- What the engine keeps and what its variables remember is what the texts parse to. -/
structure Sound (e : Engine) : Prop where
  /-- What is kept for a text is what it parses to. -/
  cache : ∀ entry ∈ e.cache,
    entry.2.map ParsedTemplate.template = Template.parse e.nullDisallowed entry.1
  /-- What the variables remember is what its text parses to. -/
  memory : e.memory.Sound fun _ => e.nullDisallowed

variable {e : Engine} {text : String}

/-- The setting of the variables depends on the configuration only. -/
theorem nullDisallowed_congr {e e' : Engine} (h : e.config = e'.config) :
    e.nullDisallowed = e'.nullDisallowed := by
  rw [nullDisallowed, nullDisallowed, h]

/-- An engine is sound at first. -/
theorem sound_new (config : Config) : Sound { config } :=
  ⟨fun _ h => absurd h List.not_mem_nil, Memory.sound_nil _⟩

/-- Parsing a text anew gives the tree of this text. -/
theorem template_parseAnew (e : Engine) (text : String) :
    (e.parseAnew text).map ParsedTemplate.template = Template.parse e.nullDisallowed text := by
  unfold parseAnew
  cases Template.parse e.nullDisallowed text <;> rfl

/-- A sound engine parses a text to its tree, and stays sound. -/
theorem Sound.parse (h : e.Sound) (text : String) :
    (e.parse text).1.map ParsedTemplate.template = Template.parse e.nullDisallowed text ∧
      (e.parse text).2.Sound ∧ (e.parse text).2.config = e.config := by
  rcases e.parse_cases text with ⟨outcome, hcached, hparse⟩ | ⟨-, -, hparse⟩ | ⟨-, -, hparse⟩
  · rw [hparse]
    exact ⟨h.cache _ (mem_cache_of_cached? hcached), h, rfl⟩
  · rw [hparse]
    refine ⟨e.template_parseAnew text, ⟨fun entry hentry => ?_, h.memory⟩, rfl⟩
    rcases List.mem_append.1 hentry with hentry | hentry
    · exact h.cache entry hentry
    · obtain rfl := List.mem_singleton.1 hentry
      exact e.template_parseAnew text
  · rw [hparse]
    exact ⟨e.template_parseAnew text, ⟨h.cache, h.memory⟩, rfl⟩

/-- A tree that comes from a text is evaluated to its statement, and the engine stays sound. -/
theorem Sound.evaluateParsed (h : e.Sound) {tree : ParsedTemplate}
    (htree : Template.parse e.nullDisallowed text = .ok tree.template) (parameters : Parameters) :
    (e.evaluateParsed tree parameters).1 = e.evaluate tree.template parameters ∧
      (e.evaluateParsed tree parameters).2.Sound ∧
      (e.evaluateParsed tree parameters).2.config = e.config := by
  have hanswers := Template.answers_evaluateAt htree [tree.serial] e.config.toDialect
    e.config.rootAlias parameters
  obtain ⟨hstatement, hmemory⟩ := hanswers e.memory h.memory
  exact ⟨hstatement, ⟨h.cache, hmemory⟩, rfl⟩

/-- A sound engine renders a text to the statement of its tree, and stays sound. -/
theorem Sound.render (h : e.Sound) (text : String) (parameters : Parameters) :
    (e.render text parameters).1 =
        ((Template.parse e.nullDisallowed text).mapError RenderError.parse >>=
          fun t => e.evaluate t parameters) ∧
      (e.render text parameters).2.Sound ∧ (e.render text parameters).2.config = e.config := by
  obtain ⟨htemplate, hsound, hconfig⟩ := h.parse text
  rcases hparse : e.parse text with ⟨outcome, e'⟩
  rw [hparse] at htemplate hsound hconfig
  simp only [Engine.render, hparse]
  rw [← htemplate]
  cases outcome with
  | ok tree =>
    -- The tree stands for the text, so its evaluation is that of a fresh one.
    have htree : Template.parse e'.nullDisallowed text = .ok tree.template := by
      rw [nullDisallowed_congr hconfig]
      exact htemplate.symm
    obtain ⟨hstatement, hsound', hconfig'⟩ := hsound.evaluateParsed htree parameters
    refine ⟨?_, hsound', hconfig'.trans hconfig⟩
    show (e'.evaluateParsed tree parameters).1 = e.evaluate tree.template parameters
    rw [hstatement, evaluate, evaluate, hconfig]
  | error fault => exact ⟨rfl, hsound, hconfig⟩

end Engine

/-! ## Sound sessions -/

namespace Session

open Engine

/-- The engine is sound, and all trees come from texts. -/
structure Sound (config : Config) (s : Session) : Prop where
  /-- The settings have not changed. -/
  config : s.engine.config = config
  /-- The engine is sound. -/
  engine : s.engine.Sound
  /-- Every tree comes from a text. -/
  held : ∀ tree ∈ s.held, ∃ text,
    Template.parse s.engine.nullDisallowed text = .ok tree.template

variable {config : Config} {s : Session}

/-- A session is sound at first, if the templates that it holds are trees of texts. -/
theorem sound_new (config : Config) (held : List ParsedTemplate)
    (h : ∀ tree ∈ held, ∃ text,
      Template.parse (Engine.nullDisallowed { config }) text = .ok tree.template) :
    Sound config ⟨{ config }, held⟩ :=
  ⟨rfl, Engine.sound_new config, h⟩

/-- The engine of a sound session may be exchanged for a sound one with the same settings. -/
theorem Sound.with_engine (h : s.Sound config) {e : Engine} (hsound : e.Sound)
    (hconfig : e.config = s.engine.config) : Sound config ⟨e, s.held⟩ := by
  refine ⟨hconfig.trans h.config, hsound, ?_⟩
  show ∀ tree ∈ s.held, ∃ text, Template.parse e.nullDisallowed text = _
  rw [nullDisallowed_congr hconfig]
  exact h.held

/-- A call leaves a sound session behind. -/
theorem Sound.after (h : s.Sound config) (c : Call) : (s.after c).Sound config := by
  cases c with
  | parse text =>
    obtain ⟨htemplate, hsound, hconfig⟩ := h.engine.parse text
    obtain ⟨hconfig', hengine', hheld⟩ := h.with_engine hsound hconfig
    refine ⟨hconfig', hengine', fun tree hmem => ?_⟩
    have hmem : tree ∈ s.held ++ (s.engine.parse text).1.toOption.toList := hmem
    rcases List.mem_append.1 hmem with htree | htree
    · exact hheld tree htree
    · -- What a parse comes to has been obtained from its text.
      refine ⟨text, ?_⟩
      show Template.parse (s.engine.parse text).2.nullDisallowed text = _
      rw [nullDisallowed_congr hconfig, ← htemplate]
      cases houtcome : (s.engine.parse text).1 with
      | ok parsed =>
        rw [houtcome] at htree
        obtain rfl := List.mem_singleton.1 htree
        rfl
      | error fault =>
        rw [houtcome] at htree
        exact absurd htree List.not_mem_nil
  | render text parameters =>
    obtain ⟨-, hsound, hconfig⟩ := h.engine.render text parameters
    exact h.with_engine hsound hconfig
  | evaluate index parameters =>
    cases htree : s.held[index]? with
    | some tree =>
      -- A tree that is held has been obtained from some text.
      obtain ⟨text, htext⟩ := h.held tree (List.mem_of_getElem? htree)
      obtain ⟨-, hsound, hconfig⟩ := h.engine.evaluateParsed htext parameters
      rw [Session.after, call_evaluate_some htree]
      exact h.with_engine hsound hconfig
    | none =>
      rw [Session.after, call_evaluate_none htree]
      exact h
  | clear =>
    exact h.with_engine ⟨fun _ h => absurd h List.not_mem_nil, h.engine.memory⟩ rfl

/-- Every session that a new engine comes to is sound. -/
theorem sound_run (config : Config) (calls : List Call) : (run config calls).Sound config := by
  induction calls using List.reverseRecOn with
  | nil => exact sound_new config [] fun _ h => absurd h List.not_mem_nil
  | append_singleton calls c ih =>
    rw [run_snoc]
    exact ih.after c

/-- Two sound sessions with the same settings and the same trees give the same answers, but for the
identity of the trees. -/
theorem Sound.forget_answer_eq {s' : Session} (h : s.Sound config) (h' : s'.Sound config)
    (hheld : s.held = s'.held) (c : Call) : (s.answer c).forget = (s'.answer c).forget := by
  -- Both answers are what the settings, the trees and the call come to by themselves.
  have hconfig : s.engine.config = s'.engine.config := h.config.trans h'.config.symm
  have hnull := nullDisallowed_congr hconfig
  have hevaluate : s.engine.evaluate = s'.engine.evaluate := by
    funext t parameters
    rw [Engine.evaluate, Engine.evaluate, hconfig]
  cases c with
  | parse text =>
    have htemplate := (h.engine.parse text).1
    have htemplate' := (h'.engine.parse text).1
    rw [← hnull, ← htemplate] at htemplate'
    show (Answer.parsed (s.engine.parse text).1).forget =
      (Answer.parsed (s'.engine.parse text).1).forget
    rw [Answer.forget_parsed, Answer.forget_parsed, htemplate']
  | render text parameters =>
    show Answer.rendered (s.engine.render text parameters).1 =
      Answer.rendered (s'.engine.render text parameters).1
    rw [(h.engine.render text parameters).1, (h'.engine.render text parameters).1, hnull, hevaluate]
  | evaluate index parameters =>
    cases htree : s.held[index]? with
    | some tree =>
      have hmem := List.mem_of_getElem? htree
      obtain ⟨text, htext⟩ := h.held tree hmem
      obtain ⟨text', htext'⟩ := h'.held tree (hheld ▸ hmem)
      have hstatement := (h.engine.evaluateParsed htext parameters).1
      have hstatement' := (h'.engine.evaluateParsed htext' parameters).1
      rw [answer, answer, call_evaluate_some htree, call_evaluate_some (hheld ▸ htree), hstatement,
        hstatement', hevaluate]
    | none => rw [answer, answer, call_evaluate_none htree, call_evaluate_none (hheld ▸ htree)]
  | clear => rfl

/-! ## Rendering with an engine that has been used -/

/-- What an engine renders a text to that has been used by calls before. -/
def rendered (config : Config) (calls : List Call) (text : String) (parameters : Parameters) :
    Except RenderError Statement :=
  ((run config calls).engine.render text parameters).1

/-- It is what the text and the settings come to by themselves. -/
theorem rendered_eq (config : Config) (calls : List Call) (text : String)
    (parameters : Parameters) :
    rendered config calls text parameters =
      ((Template.parse (config.nullPolicy == .reject) text).mapError RenderError.parse >>=
        fun t => t.evaluate config.toDialect config.rootAlias parameters) := by
  obtain ⟨hconfig, hengine, -⟩ := sound_run config calls
  obtain ⟨hrender, -, -⟩ := hengine.render text parameters
  have hnew : (run config calls).engine.config = Engine.config { config } := hconfig
  have hnull : (run config calls).engine.nullDisallowed = (config.nullPolicy == .reject) :=
    nullDisallowed_congr hnew
  have hevaluate : (run config calls).engine.evaluate =
      fun t => t.evaluate config.toDialect config.rootAlias := by
    funext t parameters
    rw [Engine.evaluate, hconfig]
  rw [rendered, hrender, hnull, hevaluate]

end Session

end SqlTemplate
