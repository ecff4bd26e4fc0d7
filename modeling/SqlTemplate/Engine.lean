import SqlTemplate.Config
import SqlTemplate.Render.Memory

/-!
# The engine

An engine evaluates templates under one configuration and keeps what it has parsed, faults as well
as trees, up to a number of texts. Once that number is reached, further texts are parsed anew each
time, until the cache is cleared. A parsed template carries an identity, so that one that was kept
can be told from one that was parsed again; under this identity the engine also keeps what the
embedded variables of the template remember, whether the template itself is kept or not.
-/

namespace SqlTemplate

/-- A parsed template with its identity. -/
structure ParsedTemplate where
  /-- Which parse it came from. -/
  serial : Nat
  /-- The tree. -/
  template : Template

/-- What parsing a text came to. -/
abbrev ParseOutcome := Except ParseError ParsedTemplate

/-- An engine. -/
structure Engine where
  /-- Its settings. -/
  config : Config := {}
  /-- What the texts that are kept were parsed to, in the order in which they came. -/
  cache : List (String × ParseOutcome) := []
  /-- The number of parses so far. -/
  parses : Nat := 0
  /-- What the embedded variables of the parsed templates remember. -/
  memory : Memory := []

namespace Engine

/-- What is kept for a text. -/
def cached? (e : Engine) (text : String) : Option ParseOutcome :=
  (e.cache.find? fun entry => entry.1 == text).map Prod.snd

/-- A null value of a variable is a fault. -/
def nullDisallowed (e : Engine) : Bool :=
  e.config.nullPolicy == .reject

/-- Parses a text anew. -/
def parseAnew (e : Engine) (text : String) : ParseOutcome :=
  (Template.parse e.nullDisallowed text).map fun template => ⟨e.parses, template⟩

/-- Parses a text, or takes what is kept for it. -/
def parse (e : Engine) (text : String) : ParseOutcome × Engine :=
  match e.cached? text with
  | some outcome => (outcome, e)
  | none =>
    let outcome := e.parseAnew text
    let cache :=
      if e.cache.length < e.config.cacheCapacity then e.cache ++ [(text, outcome)] else e.cache
    (outcome, { e with cache, parses := e.parses + 1 })

/-- The statement of a template, by itself. -/
def evaluate (e : Engine) (t : Template) (parameters : Parameters) : Except RenderError Statement :=
  t.evaluate e.config.toDialect e.config.rootAlias parameters

/-- The statement of a parsed template, whose embedded variables recall and remember. -/
def evaluateParsed (e : Engine) (parsed : ParsedTemplate) (parameters : Parameters) :
    Except RenderError Statement × Engine :=
  let (outcome, memory) :=
    (parsed.template.evaluateAt [parsed.serial] e.config.toDialect e.config.rootAlias
      parameters).run e.memory
  (outcome, { e with memory })

/-- The statement of a text. -/
def render (e : Engine) (text : String) (parameters : Parameters) :
    Except RenderError Statement × Engine :=
  match e.parse text with
  | (.ok parsed, e) => e.evaluateParsed parsed parameters
  | (.error fault, e) => (.error (.parse fault), e)

/-- The number of texts that are kept. -/
def cachedTemplates (e : Engine) : Nat :=
  e.cache.length

/-- Forgets every text. -/
def clear (e : Engine) : Engine :=
  { e with cache := [] }

end Engine

end SqlTemplate
