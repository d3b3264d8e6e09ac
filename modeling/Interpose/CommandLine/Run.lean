import Interpose.CommandLine.Usage
import Interpose.Configuration
import Interpose.Description
import Interpose.JsonText.Writer
import Interpose.MethodTable

/-! # Running commands

A command prints something and ends with an exit code: zero if it did what it was asked to, two if
its arguments are wrong, and one if it failed. Failures that lie in the target or the settings are
printed; all others end the command as they are. An error in the arguments wins over a request for
help, and help over a missing option or a superfluous argument.
-/
namespace Interpose.CommandLine

set_option autoImplicit false

/-- How a command ended: what it printed, its exit code, a failure that was not printed, and the
class that it wrote. -/
structure Outcome where
  output : String
  exitCode : Nat := 0
  failure : Option Failure := none
  generated : Option GeneratedClass := none
  deriving Repr

namespace Outcome

def failed (printed : String) (failure : Failure) : Outcome :=
  if failure.isReported then
    { output := printed ++ "Error: " ++ failure.message ++ "\n", exitCode := 1 }
  else { output := printed, exitCode := 1, failure := some failure }

def misused (spec : CommandSpec) (e : UsageError) : Outcome :=
  { output := e.report spec, exitCode := 2 }

end Outcome

inductive Request where
  | help
  | run (settings : List Setting)
  deriving DecidableEq, Repr

def CommandSpec.request (spec : CommandSpec) (arguments : List String) :
    Except UsageError Request := do
  let (settings, others) ← spec.divide arguments
  if isGiven helpOption.name settings then return .help
  match spec.options.find? fun o => o.isRequired && !isGiven o.name settings with
  | some o => throw (.missingOption o)
  | none =>
    if others = [] then return .run settings else throw (.extraArguments others)

def configurationPath? (settings : List Setting) : Option StorePath :=
  ((valueOf? "config" settings).filter (· != "")).map StorePath.ofText

def readConfiguration (storage : Storage FileContent) (settings : List Setting) :
    Except Failure Configuration :=
  match configurationPath? settings with
  | none => .ok {}
  | some path => do Configuration.ofText (← storage.read path).text

/-- Writes the class that some settings ask for. A configuration file comes first; the options
take the place of what it says. -/
def generate (world : World) (settings : List Setting) : StateM Workspace Outcome := do
  match readConfiguration (← get).storage settings with
  | .error failure => return { output := "", exitCode := 1, failure := some failure }
  | .ok configuration =>
    let configuration :=
      { configuration with
        directory := (valueOf? "directory" settings).or configuration.directory
        namespaceName := (valueOf? "namespace" settings).or configuration.namespaceName }
    let generator := configuration.generator ""
    let target := TargetRef.named ((valueOf? "target" settings).getD "")
    let action : Action GeneratedClass := do
      if generator.directory = "" then throw .directoryRequired
      if generator.namespaceName = "" then throw .namespaceRequired
      generator.generateIn world target generator.directory
    match ← action.run with
    | .error failure => return .failed "" failure
    | .ok generated =>
      let place := (generated.path.map StorePath.text).getD ""
      return { output := "Generated " ++ generated.name ++ " in " ++ place ++ "\n", generated }

def describe (world : World) (settings : List Setting) : Outcome :=
  let target : Except Failure Target := do
    let c ← world.resolveTarget ((valueOf? "target" settings).getD "")
    world.introspect c
  match target with
  | .error failure => .failed "" failure
  | .ok target =>
    if isGiven "json" settings then
      match JsonText.write (target.describe world) with
      | .error failure => .failed "" failure
      | .ok text => { output := text ++ "\n" }
    else
      let title := "\n".intercalate (Text.wrap consoleWidth .cut target.fullName) ++ "\n"
      match target.methodTable world with
      | .error failure => .failed title failure
      | .ok table => { output := title ++ table }

def Command.run (world : World) (command : Command) (arguments : List String) :
    StateM Workspace Outcome := do
  match command.spec.request arguments with
  | .error e => return .misused command.spec e
  | .ok .help => return { output := command.spec.helpText }
  | .ok (.run settings) =>
    match command with
    | .gen => generate world settings
    | .info => return describe world settings

/-- What is wrong with a command name that means nothing. It is read as options once more, so that
an option out of place is reported as one. -/
def unknownCommand (arguments : List String) (name : String) : Outcome :=
  match program.divide arguments with
  | .error e => .misused program e
  | .ok (settings, _) =>
    if isGiven helpOption.name settings then { output := programHelp }
    else
      .misused program (.unknownCommand name (Text.similarTo name (Command.all.map (·.name))))

def configurationFile? (arguments : List String) : Option StorePath :=
  match program.divide arguments with
  | .ok (_, name :: rest) =>
    match Command.ofName? name with
    | none => none
    | some command =>
      match command.spec.request rest with
      | .ok (.run settings) => configurationPath? settings
      | _ => none
  | _ => none

/-- Runs the program with its arguments. Without any, it explains itself. -/
def run (world : World) (arguments : List String) : StateM Workspace Outcome := do
  if arguments = [] then return { output := programHelp, exitCode := 2 }
  match program.divide arguments with
  | .error e => return .misused program e
  | .ok (settings, others) =>
    if isGiven helpOption.name settings then return { output := programHelp }
    match others with
    | [] => return .misused program .missingCommand
    | name :: rest =>
      match Command.ofName? name with
      | some command => command.run world rest
      | none => return unknownCommand others name

end Interpose.CommandLine
