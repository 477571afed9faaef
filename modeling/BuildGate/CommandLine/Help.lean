import BuildGate.CommandLine.Arguments
import BuildGate.Settings.Sources

/-!
# Help

The text that describes the program or one of its verbs. In short, each option is one line with its
words in a column; in full, the words stand below the option, with what its values mean.
-/
namespace BuildGate.CommandLine

namespace Help

def spaces (n : Nat) : String := String.ofList (List.replicate n ' ')

/-- A text with blanks up to a column. -/
def padTo (width : Nat) (s : String) : String := s ++ spaces (width - s.length)

/-- The lines of a text after the first one, moved to a column. -/
def hang (column : Nat) (s : String) : String := s.replace "\n" ("\n" ++ spaces column)

/-- The column in which full help stands. -/
def column : Nat := 10

def programAbout : String := "Build gate for lint, doc-comment style rules, tests, and coverage"

def helpAbout : String := "Print this message or the help of the given subcommand(s)"

/-- The variables that the program heeds. -/
def variableSection : String :=
  "ENVIRONMENT VARIABLES:\n" ++
  "    RUST_LOG               Log filter (e.g., debug, stylegate=trace)\n" ++
  "    STYLEGATE_LOG_PATH     Explicit log file path\n" ++
  "    STYLEGATE_LOG_DIR      Log directory\n" ++
  "    STYLEGATE_TEST_GREP    Only run tests whose name matches this filter\n" ++
  "    STYLEGATE_<KEY>        Override any config key (nested keys use __)\n" ++
  "    BROWSER                Program used to open coverage reports\n"

/-! ## Options -/

/-- How help writes an option. -/
def written (o : Opt) : String :=
  (match o.short? with
    | some c => "-" ++ toString c ++ ", "
    | none => "    ") ++
  "--" ++ o.long ++
  match o.shape with
  | .flag => ""
  | .count => "..."
  | .value name _ => " <" ++ name ++ ">"

def words (o : Opt) (inFull : Bool) : String :=
  match o with
  | .help => if inFull then "Print help (see a summary with '-h')" else
      "Print help (see more with '--help')"
  | _ => o.about

/-- The words that an option may have as its value, with what they mean. -/
def choices (o : Opt) : List (String × String) :=
  match o.shape with
  | .value _ (.choice words) => words
  | _ => []

/-- Where the value of an option comes from that is not given. -/
def origins (env : Environment) (o : Opt) : List String :=
  (match o.envName? with
    | some name => ["[env: " ++ name ++ "=" ++ (env.get? name).getD "" ++ "]"]
    | none => []) ++
  match o.default? with
  | some value => ["[default: " ++ value ++ "]"]
  | none => []

/-- The words for an option on one line. -/
def shortWords (env : Environment) (o : Opt) : String :=
  " ".intercalate
    (words o false :: origins env o ++
      match choices o with
      | [] => []
      | cs => ["[possible values: " ++ ", ".intercalate (cs.map (·.1)) ++ "]"])

/-- The widest of some texts. -/
def widest (texts : List String) : Nat := (texts.map String.length).foldl max 0

/-- What the values of an option mean, one on a line. -/
def choiceLines (cs : List (String × String)) : List String :=
  let width := widest (cs.map (·.1)) + 1
  "Possible values:" :: cs.map fun (word, about) => "- " ++ padTo width (word ++ ":") ++ " " ++ about

/-- The words for an option below it. -/
def fullWords (env : Environment) (o : Opt) : String :=
  let margin := spaces column
  margin ++ words o true ++
  (match choices o with
    | [] => ""
    | cs => "\n" ++ String.join ((choiceLines cs).map fun l => "\n" ++ margin ++ l)) ++
  match origins env o with
  | [] => ""
  | os => hang column ("\n" ++ "\n" ++ "\n".intercalate os)

/-! ## Sections -/

/-- Entries with their words in a column. -/
def columns (entries : List (String × String)) : String :=
  let width := widest (entries.map (·.1))
  String.join (entries.map fun (entry, words) =>
    "  " ++ padTo width entry ++ "  " ++ hang (width + 4) words ++ "\n")

/-- Entries with their words, which have their margin, below them. -/
def blocks (entries : List (String × String)) : String :=
  "\n".intercalate (entries.map fun (entry, words) => "  " ++ entry ++ "\n" ++ words ++ "\n")

def optionSection (env : Environment) (inFull : Bool) (os : List Opt) : String :=
  "Options:\n" ++
    if inFull then blocks (os.map fun o => (written o, fullWords env o))
    else columns (os.map fun o => (written o, shortWords env o))

def operandSection (inFull : Bool) (p : Operand) : String :=
  "Arguments:\n" ++
    if inFull then blocks [(p.written, spaces column ++ p.about)]
    else columns [(p.written, p.about)]

def verbSection : String :=
  "Commands:\n" ++
    columns
      ((Verb.every.map fun v =>
        (v.name, v.about ++
          match v.alias? with
          | some other => " [alias: " ++ other ++ "]"
          | none => "")) ++
        [("help", helpAbout)])

/-- How a command line is made up. -/
def usage (parts : List String) : String := "Usage: " ++ " ".intercalate (Settings.appName :: parts) ++ "\n"

/-- Help about a topic. -/
def text (env : Environment) (topic : Topic) (inFull : Bool) : String :=
  "\n".intercalate
    (match topic with
    | .program =>
      [programAbout ++ "\n", usage ["[OPTIONS]", "[COMMAND]"], verbSection,
        optionSection env inFull Opt.root] ++ if inFull then [variableSection] else []
    | .verb v =>
      [v.about ++ "\n", usage (v.name :: "[OPTIONS]" :: v.operand?.toList.map Operand.written)] ++
        v.operand?.toList.map (operandSection inFull) ++ [optionSection env inFull v.options]
    | .help =>
      [helpAbout ++ "\n", usage ["help", "[COMMAND]..."],
        "Arguments:\n" ++ columns [("[COMMAND]...", "Print help for the subcommand(s)")]])

end Help

end BuildGate.CommandLine
