import StubGen.Command.Arguments
import StubGen.Settings.Loading

/-!
# Help texts

A help text shows the usage of a scope, what the scope does, and its operands and flags in two
columns that fit the width of a page. The usage alone precedes the message of a fault.
-/

namespace StubGen.Command

/-- A line of a table: what is explained, and its explanation in words. -/
structure HelpRow where
  indent : Nat
  term : String
  words : List String
  deriving DecidableEq, Repr, Inhabited

/-- A table with its title. -/
structure HelpSection where
  title : String
  rows : List HelpRow
  deriving DecidableEq, Repr, Inhabited

def pageWidth : Nat := 78

/-- The last column where explanations may start. -/
def maxColumn : Nat := 24

def blanks (n : Nat) : String := "".pushn ' ' n

/-- Words in lines of at most `width` characters; `line` is the one begun. -/
def filled (width : Nat) (line : String) : List String → List String
  | [] => [line]
  | word :: rest =>
    if line.length + 1 + word.length ≤ width then filled width (line ++ " " ++ word) rest
    else line :: filled width word rest

namespace HelpRow

def flag (term explanation : String) : HelpRow := ⟨2, term, explanation.splitOn " "⟩

/-- The column at which a row could start its explanation. -/
def column (row : HelpRow) : Nat := row.indent + row.term.length + 2

/-- The lines of a row whose explanation starts at a column. -/
def lines (column : Nat) (row : HelpRow) : List String :=
  let first := blanks row.indent ++ row.term
  match row.words with
  | [] => [first]
  | word :: rest =>
    match filled (pageWidth - column) word rest with
    | [] => [first]
    | explanation :: more =>
      let later := more.map (blanks column ++ ·)
      if row.column ≤ column then
        (first ++ blanks (column - first.length) ++ explanation) :: later
      else first :: (blanks column ++ explanation) :: later

end HelpRow

def explanationColumn (rows : List HelpRow) : Nat :=
  min maxColumn (rows.foldl (fun n row => max n row.column) 0)

namespace Scope

def usage : Scope → List String
  | none =>
    ["usage: codestub [-h] [--config CONFIG]",
     "                [--log-level \x7bDEBUG,INFO,WARNING,ERROR,CRITICAL\x7d]",
     "                COMMAND ..."]
  | some .generate => ["usage: codestub generate [-h] [--language LANGUAGE] request"]
  | some .validate => ["usage: codestub validate [-h] [--language LANGUAGE] request"]
  | some .languages => ["usage: codestub languages [-h]"]
  | some .types => ["usage: codestub types [-h] language"]
  | some .serve => ["usage: codestub serve [-h] [--port PORT] [--host HOST]"]

def description : Scope → String
  | none => "codestub: boilerplate function stubs from a language-neutral signature"
  | some .generate => "Read a JSON or YAML request and print the generated template."
  | some .validate => "Dry-run type validation of a JSON or YAML request."
  | some .languages => "List the enabled target languages."
  | some .types => "Print every supported DSL type and its spelling in the given language."
  | some .serve => "Launch the web-based template preview together with the REST API."

end Scope

/-- What a verb does, in the list of verbs. -/
def Verb.summary : Verb → String
  | generate => "Generate a template from a request file"
  | validate => "Check that every type in a request is supported"
  | languages => "List the supported target languages"
  | types => "Show the type table of a language"
  | serve => "Launch the template preview and REST API"

def Flag.row : Flag → HelpRow
  | help => .flag "-h, --help" "show this help message and exit"
  | config =>
    .flag "--config CONFIG"
      ("Path to the configuration file (default: ./" ++ Settings.fileName ++ " if present)")
  | logLevel =>
    .flag ("--log-level \x7b" ++ Text.joined "," logLevels ++ "\x7d")
      "Logging level (overrides the configuration file)"
  | language =>
    .flag "--language LANGUAGE" "Target language (overrides the language in the request)"
  | port =>
    .flag "--port PORT" "Port to run the server on (default: from configuration, 8050)"
  | host =>
    .flag "--host HOST" "Host to bind the server to (default: from configuration, 127.0.0.1)"

namespace Scope

/-- The rows of what a scope wants besides flags. -/
def operandRows : Scope → List HelpRow
  | none => ⟨2, "COMMAND", []⟩ :: Verb.all.map fun v => ⟨4, v.name, v.summary.splitOn " "⟩
  | some .generate | some .validate => [.flag "request" "Path to the request file (JSON or YAML)"]
  | some .types => [.flag "language" "Target language"]
  | some .languages | some .serve => []

def tables (s : Scope) : List HelpSection :=
  let options : HelpSection := ⟨"options", s.flags.map Flag.row⟩
  match operandRows s with
  | [] => [options]
  | rows => [⟨"positional arguments", rows⟩, options]

def help (s : Scope) : String :=
  let column := explanationColumn (s.tables.flatMap HelpSection.rows)
  let block (table : HelpSection) : List String :=
    "" :: (table.title ++ ":") :: table.rows.flatMap (HelpRow.lines column)
  Text.unlines (s.usage ++ ["", s.description] ++ s.tables.flatMap block)

end Scope

def UsageFault.report (scope : Scope) (fault : UsageFault) : String :=
  Text.unlines (scope.usage ++ [scope.title ++ ": error: " ++ fault.message])

end StubGen.Command
