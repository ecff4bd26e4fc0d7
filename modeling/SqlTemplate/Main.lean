import SqlTemplate.CommandLine

/-!
# The program

`main` fetches what the outcome of the command depends on, which is the environment and the text of
the files that the arguments name, and then prints the outcome.
-/

namespace SqlTemplate.Main

/-- The variables of the environment that settings are taken from. -/
def settingNames : List String :=
  ["TWOWAYSQL_DIALECT", "TWOWAYSQL_NULL_POLICY", "TWOWAYSQL_TEMPLATE_CACHE_CAPACITY",
    "TWOWAYSQL_IN_CLAUSE_MAX_SIZE", "TWOWAYSQL_ROOT_ALIAS", "LOG_LEVEL",
    CommandLine.logFilterName]

/-- Fetches what is there under each name. -/
def fetch (names : List String) (get : String → IO (Option String)) :
    IO (String → Option String) := do
  let entries ← names.filterMapM fun name => do
    return (← get name).map fun text => (name, text)
  return fun name => entries.lookup name

/-- The text of a file, if it can be read. -/
def contents (file : String) : IO (Option String) := do
  try
    return some (← IO.FS.readFile file)
  catch _ =>
    return none

/-- The files that arguments name. -/
def files (args : List String) : List String :=
  match CommandLine.ofArguments args with
  | .ok c => c.template.toList ++ c.params.toList
  | .error _ => []

end SqlTemplate.Main

open SqlTemplate in
/-- Runs the command. -/
def main (args : List String) : IO UInt32 := do
  let environment ← Main.fetch Main.settingNames fun name => IO.getEnv name
  let contents? ← Main.fetch (Main.files args) Main.contents
  let outcome := Outcome.ofArguments args environment contents?
  for complaint in outcome.complaints do
    IO.eprintln complaint
  match outcome with
  | .printed text =>
    IO.print text
    return 0
  | .failed _ _ => return 1
  | .usage => return 2
