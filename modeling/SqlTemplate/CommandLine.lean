import SqlTemplate.Config.Json
import SqlTemplate.Dialect.Inline
import SqlTemplate.Engine
import SqlTemplate.LogFilter
import SqlTemplate.Parameters.Json
import SqlTemplate.Statement.Json

/-!
# The command line

The command renders one template against the properties in a JSON file and prints the statement. Its
arguments are the template and options in any order; an option that takes a value takes it behind
`=` or as the next argument, every option is given once at most, and all that follows `--` are
templates. They are read from the left: the first one that is not understood, or that asks for a
text about the command, ends the reading. Options go before the environment, which goes before the
defaults.
-/

namespace SqlTemplate

/-- What the arguments ask for. -/
structure CommandLine where
  /-- The file of the template. -/
  template : Option String := none
  /-- The file of the parameters. -/
  params : Option String := none
  /-- The type name of the parameter object. -/
  typeName : Option String := none
  /-- The kind of dialect. -/
  dialect : Option DialectKind := none
  /-- The null policy. -/
  nullPolicy : Option NullPolicy := none
  /-- Whether the statement is also printed with its values inlined. -/
  inline : Bool := false

/-- Why the reading of arguments ends before their end. -/
inductive Departure where
  /-- An argument is not understood. -/
  | misunderstood
  /-- The text on how to use the command is asked for. -/
  | help
  /-- The version of the command is asked for. -/
  | version
  deriving DecidableEq, Repr

/-- What the letter of an option asks for. -/
def Departure.ofLetter : Char → Departure
  | 'h' => help
  | 'V' => version
  | _ => misunderstood

namespace CommandLine

/-- Sets what has not been set before. -/
def once {α : Type} (old : Option α) (new : Option α) : Option (Option α) :=
  match old, new with
  | none, some a => some (some a)
  | _, _ => none

/-- The name of a file, which is not empty. -/
def file? (text : String) : Option String :=
  if text.isEmpty then none else some text

/-- An option that takes a value, with its value; `none` if there is no such option, or if the
value is not one of it. -/
def setValue? (c : CommandLine) (name value : String) : Option CommandLine :=
  match name with
  | "params" => (once c.params (file? value)).map fun params => { c with params }
  | "type-name" => (once c.typeName (some value)).map fun typeName => { c with typeName }
  | "dialect" =>
    (once c.dialect (DialectKind.parse value).toOption).map fun dialect => { c with dialect }
  | "null-policy" =>
    (once c.nullPolicy (NullPolicy.parse value).toOption).map fun nullPolicy =>
      { c with nullPolicy }
  | _ => none

/-- The option takes a value. -/
def takesValue (name : String) : Bool :=
  ["params", "type-name", "dialect", "null-policy"].contains name

/-- An option that takes no value. -/
def setFlag (c : CommandLine) (name : String) : Except Departure CommandLine :=
  match name with
  | "inline" => if c.inline then .error .misunderstood else .ok { c with inline := true }
  | "help" => .error .help
  | "version" => .error .version
  | _ => .error .misunderstood

/-- The template. -/
def setTemplate? (c : CommandLine) (text : String) : Option CommandLine :=
  (once c.template (file? text)).map fun template => { c with template }

/-- The argument looks like an option. -/
def isOption (arg : List Char) : Bool :=
  match arg with
  | '-' :: _ :: _ => true
  | _ => false

/-- The name of an option, and its value if it has one behind `=`. -/
def splitOption (option : List Char) : String × Option String :=
  let name := option.takeWhile (· != '=')
  match option.dropWhile (· != '=') with
  | [] => (String.ofList name, none)
  | _ :: value => (String.ofList name, some (String.ofList value))

/-- What has been understood, if it has been. -/
def understood : Option CommandLine → Except Departure CommandLine
  | some c => .ok c
  | none => .error .misunderstood

/-- Reads arguments that are all templates. -/
def readTemplates? (c : CommandLine) (args : List String) : Option CommandLine :=
  args.foldlM setTemplate? c

/-- Reads arguments. -/
def readFrom (c : CommandLine) : List String → Except Departure CommandLine
  | [] => .ok c
  | arg :: rest =>
    match arg.toList with
    | ['-', '-'] => understood (c.readTemplates? rest)
    -- An option with its value behind `=`, and one without.
    | '-' :: '-' :: option =>
      match splitOption option with
      | (name, some value) => (understood (c.setValue? name value)).bind fun c => c.readFrom rest
      | (name, none) =>
        if takesValue name then
          -- The value is the next argument, unless that is an option itself.
          match rest with
          | [] => .error .misunderstood
          | value :: rest =>
            if isOption value.toList then .error .misunderstood
            else (understood (c.setValue? name value)).bind fun c => c.readFrom rest
        else (c.setFlag name).bind fun c => c.readFrom rest
    | '-' :: letter :: _ => .error (Departure.ofLetter letter)
    | _ => (understood (c.setTemplate? arg)).bind fun c => c.readFrom rest

/-- What the arguments of the command ask for. -/
def ofArguments (args : List String) : Except Departure CommandLine :=
  readFrom {} args

/-- The settings: those of the environment, but what the options give. -/
def toConfig (c : CommandLine) (environment : String → Option String) : Config :=
  let config := Config.ofEnvironment environment
  { config with
    dialect := c.dialect.getD config.dialect
    nullPolicy := c.nullPolicy.getD config.nullPolicy }

end CommandLine

/-- The name of the command. -/
def commandName : String := "twowaysql-cli"

/-- The version of the command. -/
def commandVersion : String := "0.7.0"

/-- The options, each with its text. -/
def optionTexts : List (String × String) :=
  [("    --params <PARAMS>", "JSON file holding the parameter object properties"),
    ("    --type-name <TYPE_NAME>",
      "Parameter object type name used in error messages [default: " ++
        ({} : Parameters).typeName ++ "]"),
    ("    --dialect <DIALECT>", "Target dialect: standard, postgres, mysql or oracle"),
    ("    --null-policy <NULL_POLICY>", "Null bind handling: skip or reject"),
    ("    --inline", "Also print the SQL with literals substituted (for reading only)"),
    ("-h, --help", "Print help"),
    ("-V, --version", "Print version")]

/-- The line that shows how arguments stand. -/
def usageLine : String :=
  "Usage: " ++ commandName ++ " [OPTIONS] <TEMPLATE>"

/-- An option and its text, which starts at the given column. -/
def optionLine (column : Nat) (option text : String) : String :=
  "  " ++ option ++ String.ofList (List.replicate (column - option.length) ' ') ++ text

/-- The text on how to use the command. -/
def helpText : String :=
  let column := (optionTexts.map (·.1.length)).foldl max 0 + 2
  let lines :=
    ["Render a two-way SQL template", "", usageLine, "", "Arguments:",
      "  <TEMPLATE>  Template file", "", "Options:"] ++
    optionTexts.map fun (option, text) => optionLine column option text
  String.join (lines.map (· ++ "\n"))

/-- Why the command fails after its arguments have been understood. -/
inductive CommandError where
  /-- The filter for the log has a fault. -/
  | badLogFilter (filter : String)
  /-- The template cannot be read. -/
  | noTemplate (file : String)
  /-- The parameters cannot be read. -/
  | noParameters (file : String)
  /-- The parameters are no JSON object. -/
  | badParameters (file : String)
  /-- There is no statement. -/
  | render (file : String) (cause : RenderError)

namespace CommandError

/-- The wording of the error. -/
def message : CommandError → String
  | badLogFilter filter => "invalid log level filter: " ++ filter
  | noTemplate file => "failed to read template " ++ file
  | noParameters file => "failed to read parameters from " ++ file
  | badParameters file => "invalid parameter JSON in " ++ file
  | render file _ => "failed to render " ++ file

/-- The wording of what was wrong with the template. -/
def cause? : CommandError → Option String
  | render _ cause => some cause.message
  | _ => none

/-- What is written about the error. -/
def report (e : CommandError) : String :=
  "Error: " ++ e.message ++
    match e.cause? with
    | some cause => "\n\nCaused by:\n    " ++ cause
    | none => ""

end CommandError

/-- What the command comes to. -/
inductive Outcome where
  /-- The arguments are not understood. -/
  | usage
  /-- There is no statement to print; what has been noticed before is said first. -/
  | failed (notices : List String) (e : CommandError)
  /-- A text is printed. -/
  | printed (text : String)

/-- What is written about a failure. -/
def Outcome.complaints : Outcome → List String
  | usage => [usageLine]
  | failed notices e => notices ++ [e.report]
  | printed _ => []

namespace CommandLine

/-- The variable with a filter for the log that goes before the level in the settings. -/
def logFilterName : String := "RUST_LOG"

/-- What is noticed in the filter of the environment, whose faults are passed over. -/
def notices (environment : String → Option String) : List String :=
  ((environment logFilterName).map LogFilter.notices).getD []

/-- The level in the settings is a filter for the log, unless the environment gives one. -/
def checkLogLevel (config : Config) (environment : String → Option String) :
    Except CommandError Unit :=
  if (environment logFilterName).isSome || LogFilter.isValid config.logLevel then .ok ()
  else .error (.badLogFilter config.logLevel)

/-- The parameters of the command; `contents?` is the text of a file. -/
def parameters (c : CommandLine) (contents? : String → Option String) :
    Except CommandError Parameters :=
  let typeName := c.typeName.getD ({} : Parameters).typeName
  match c.params with
  | none => .ok { typeName }
  | some file =>
    match contents? file with
    | none => .error (.noParameters file)
    | some text =>
      match Parameters.ofJsonText typeName text with
      | .ok parameters => .ok parameters
      | .error _ => .error (.badParameters file)

/-- The text that is printed for a statement. -/
def output (c : CommandLine) (d : Dialect) (s : Statement) : String :=
  let inlined := if c.inline then [("inlineSql", Json.string (d.inline s))] else []
  (Json.object (s.jsonMembers ++ inlined)).pretty ++ "\n"

/-- Renders the template in `file`. -/
def render (c : CommandLine) (environment contents? : String → Option String) (file : String) :
    Except CommandError String := do
  let config := c.toConfig environment
  checkLogLevel config environment
  let text ← match contents? file with
    | some text => pure text
    | none => throw (.noTemplate file)
  let parameters ← c.parameters contents?
  match (Engine.render { config } text parameters).1 with
  | .ok s => return c.output config.toDialect s
  | .error cause => throw (.render file cause)

end CommandLine

/-- What the command comes to for its arguments, where `environment` gives the variables and
`contents?` the text of a file. -/
def Outcome.ofArguments (args : List String) (environment contents? : String → Option String) :
    Outcome :=
  match CommandLine.ofArguments args with
  | .error .misunderstood => .usage
  | .error .help => .printed helpText
  | .error .version => .printed (commandName ++ " " ++ commandVersion ++ "\n")
  | .ok c =>
    match c.template with
    | none => .usage
    | some file =>
      match c.render environment contents? file with
      | .ok text => .printed text
      | .error e => .failed (CommandLine.notices environment) e

end SqlTemplate
