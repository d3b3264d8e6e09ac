import Interpose.CommandLine.Arguments
import Interpose.Text.Quoted
import Interpose.Text.Width

/-! # Commands and their help

The two commands of the program, the texts that explain them, and the texts that say what is wrong
with their arguments.
-/
namespace Interpose.CommandLine

set_option autoImplicit false

def program : CommandSpec :=
  { path := "pcgen"
    usage := "[OPTIONS] COMMAND [ARGS]..."
    summary := "Persistent collection class generator."
    options :=
      [{ name := "verbose", letter := some 'v', takesValue := false,
         help := "Enable debug logging" }]
    mixesOptions := false }

def targetOption : OptionSpec :=
  { name := "target", letter := some 't', isRequired := true,
    help := "Collection class (module:QualName)" }

def genCommand : CommandSpec :=
  { path := "pcgen gen"
    usage := "[OPTIONS]"
    summary := "Write the persistent collection class for a target class."
    options :=
      [targetOption,
       { name := "directory", letter := some 'd', help := "Output directory" },
       { name := "namespace", letter := some 'n', help := "Namespace of generated classes" },
       { name := "config", letter := some 'c', help := "JSON configuration file" }] }

def infoCommand : CommandSpec :=
  { path := "pcgen info"
    usage := "[OPTIONS]"
    summary := "Display the methods of a target class and how they are decorated."
    options :=
      [targetOption, { name := "json", takesValue := false, help := "Output as JSON" }] }

inductive Command where
  | gen
  | info
  deriving DecidableEq, Repr

namespace Command

def all : List Command := [gen, info]

def name : Command → String
  | gen => "gen"
  | info => "info"

def spec : Command → CommandSpec
  | gen => genCommand
  | info => infoCommand

def ofName? (name : String) : Option Command :=
  all.find? fun command => command.name == name

end Command

/-! ## Help -/

/-- The forms of an option, the short one first, and the mark of its value. -/
def OptionSpec.formsText (o : OptionSpec) : String :=
  let letter := match o.letter with
    | some letter => shortForm letter ++ ", "
    | none => ""
  letter ++ o.long ++ (if o.takesValue then " TEXT" else "")

def OptionSpec.helpRow (o : OptionSpec) : String × String :=
  (o.formsText, o.help ++ (if o.isRequired then "  [required]" else ""))

/-- A heading, and under it terms with their explanations in two columns. -/
def definitions (heading : String) (rows : List (String × String)) : String :=
  let columns := rows.foldl (fun columns row => max columns (Text.width row.1)) 0
  heading ++ ":\n" ++ String.join (rows.map fun (term, explanation) =>
    "  " ++ Text.padTo (columns + 2) term ++ explanation ++ "\n")

namespace CommandSpec

variable (spec : CommandSpec)

def usageLine : String :=
  "Usage: " ++ spec.path ++ " " ++ spec.usage ++ "\n"

def helpText : String :=
  spec.usageLine ++ "\n  " ++ spec.summary ++ "\n\n"
    ++ definitions "Options" (spec.allOptions.map (·.helpRow))

end CommandSpec

def programHelp : String :=
  program.helpText ++ "\n"
    ++ definitions "Commands" (Command.all.map fun command => (command.name, command.spec.summary))

/-! ## Usage errors -/

/-- The names that could have been meant. -/
def suggestion (names : List String) : String :=
  match names.mergeSort (fun a b => decide (a ≤ b)) with
  | [] => ""
  | [name] => " Did you mean " ++ Text.quote name ++ "?"
  | names => " (Did you mean one of: " ++ ", ".intercalate (names.map Text.quote) ++ "?)"

def OptionSpec.quotedForms (o : OptionSpec) : String :=
  let letter := match o.letter with
    | some letter => " / " ++ Text.quote (shortForm letter)
    | none => ""
  Text.quote o.long ++ letter

namespace UsageError

def message : UsageError → String
  | .missingValue option => "Option " ++ Text.quote option ++ " requires an argument."
  | .unexpectedValue option => "Option " ++ Text.quote option ++ " does not take a value."
  | .unknownOption option similar =>
    "No such option " ++ Text.quote option ++ "." ++ suggestion similar
  | .unknownCommand name similar =>
    "No such command " ++ Text.quote name ++ "." ++ suggestion similar
  | .missingCommand => "Missing command."
  | .missingOption option => "Missing option " ++ option.quotedForms ++ "."
  | .extraArguments [argument] => "Got unexpected extra argument (" ++ argument ++ ")"
  | .extraArguments arguments =>
    "Got unexpected extra arguments (" ++ " ".intercalate arguments ++ ")"

/-- Whether the usage of the command stands before the message. An error about the value of an
option is shown alone. -/
def showsUsage : UsageError → Bool
  | .missingValue _ | .unexpectedValue _ => false
  | _ => true

def report (spec : CommandSpec) (e : UsageError) : String :=
  let usage :=
    if e.showsUsage then
      spec.usageLine ++ "Try " ++ Text.quote (spec.path ++ " --help") ++ " for help.\n\n"
    else ""
  usage ++ "Error: " ++ e.message ++ "\n"

end UsageError
end Interpose.CommandLine
