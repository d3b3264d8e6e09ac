import Interpose.Value.Text

/-! # Causes of failure

Every operation that can fail says why. The causes fall into families, which differ in how a
command reports them; `message` is the text of those that are reported.
-/
namespace Interpose

set_option autoImplicit false

inductive Failure where
  | malformedHint (shown : String)
  /-- An annotation follows the grammar, but a literal in it denotes nothing. -/
  | unreadableLiteral
  | unsupportedHint (text : String)
  /-- A subscripted name does not mean a type with a name. -/
  | unsupportedGeneric (text : String)
  | unsupportedLiteral (text : String)
  | missingArgument
  /-- Following the names of an annotation leads back to where it started. -/
  | endlessHint
  | unreadableSignature (method className : String)
  | malformedTarget (text : String)
  | classNotFound (qualname module : String)
  | targetIsNoClass (text : String)
  | emptyModuleName
  | relativeModuleName
  /-- A module does not exist; the parent is given if it exists and can hold no modules. -/
  | moduleNotFound (name : String) (parent : Option String)
  /-- A module exists under the name of a class that it does not define. -/
  | moduleOccupied (name : String)
  | parentRequired (className method : String)
  | invalidParameterHint (className method parameter : String)
  | invalidReturnHint (className method : String)
  | directoryRequired
  | namespaceRequired
  | directoryNotWritable (directory : String)
  | unknownPolicy (text : String)
  | notSupported (operation : String)
  | loadFailed
  | noUnitOfWork
  | moduleFails (text : String)
  | missingAttribute (name : String)
  | missingEntry (key : String)
  | indexOutOfRange
  | argumentMismatch
  | notCallable
  | notAwaitable
  /-- The parameters of an object that can be called are not known. -/
  | unknownParameters
  | unusableBase
  | unknownName (name : String)
  /-- A value cannot be the key of an object in the output format. -/
  | unsupportedKey
  | malformedModule
  | fileNotFound (path : String)
  | isDirectory (path : String)
  | notDirectory (path : String)
  | malformedJson
  /-- Arrays and objects of a JSON text stand too deep in each other. -/
  | deepJson
  | oversizedInteger
  /-- The configuration is not an object. -/
  | unusableConfiguration
  deriving DecidableEq, Repr

namespace Failure

def isIntrospection : Failure → Bool
  | .malformedHint _ | .unsupportedHint _ | .unsupportedGeneric _
  | .unsupportedLiteral _ | .unreadableSignature .. | .malformedTarget _ | .classNotFound ..
  | .targetIsNoClass _ => true
  | _ => false

def isGeneration : Failure → Bool
  | .parentRequired .. | .invalidParameterHint .. | .invalidReturnHint .. | .directoryRequired
  | .namespaceRequired | .directoryNotWritable _ => true
  | _ => false

def isImport : Failure → Bool
  | .moduleNotFound .. | .moduleOccupied _ => true
  | _ => false

/-- Whether a command reports the cause as an error of its own. All other causes end the command
without a report. -/
def isReported (failure : Failure) : Bool :=
  failure.isIntrospection || failure.isGeneration || failure.isImport

def message : Failure → String
  | .malformedHint shown => "Cannot parse type annotation " ++ shown
  | .unsupportedHint text => "Unsupported type annotation " ++ text
  | .unsupportedGeneric text => "Unsupported generic annotation " ++ text
  | .unsupportedLiteral text => "Unsupported literal annotation " ++ text
  | .unreadableSignature method className =>
    "Cannot introspect method " ++ Text.quote method ++ " of class " ++ Text.quote className
  | .malformedTarget text => "Invalid target class " ++ Text.quote text
  | .classNotFound qualname module =>
    "Class " ++ Text.quote qualname ++ " not found in module " ++ Text.quote module
  | .targetIsNoClass text => Text.quote text ++ " is not a class"
  | .moduleNotFound name none => "No module named " ++ Text.quote name
  | .moduleNotFound name (some parent) =>
    "No module named " ++ Text.quote name ++ "; " ++ Text.quote parent ++ " is not a package"
  | .moduleOccupied name =>
    "Module " ++ name ++ " is already defined without a persistent collection"
  | .parentRequired className method =>
    "The method \"" ++ method ++ "\" in class \"" ++ className ++
      "\" defines a parent type, but the class does not extend any class."
  | .invalidParameterHint className method parameter =>
    "The type hint of parameter \"" ++ parameter ++ "\" in method \"" ++ method ++
      "\" in class \"" ++ className ++ "\" is invalid."
  | .invalidReturnHint className method =>
    "The return type of method \"" ++ method ++ "\" in class \"" ++ className ++ "\" is invalid."
  | .directoryRequired =>
    "You must configure a persistent collection directory. See docs for details."
  | .namespaceRequired =>
    "You must configure a persistent collection namespace. See docs for details."
  | .directoryNotWritable directory =>
    "Your persistent collection directory must be writable: " ++ directory
  | .unknownPolicy text => text ++ " is not a valid GenerationPolicy"
  | .notSupported operation => operation ++ "() must be implemented by the decoration support"
  | .loadFailed => "load failed"
  | .noUnitOfWork => "Cannot schedule synchronization without a unit of work"
  | .moduleFails text => text
  | .unreadableLiteral | .missingArgument | .endlessHint | .emptyModuleName
  | .relativeModuleName | .missingAttribute _ | .missingEntry _ | .indexOutOfRange
  | .argumentMismatch | .notCallable | .notAwaitable | .unknownParameters | .unusableBase
  | .unknownName _ | .unsupportedKey | .malformedModule
  | .fileNotFound _ | .isDirectory _ | .notDirectory _ | .malformedJson | .deepJson
  | .oversizedInteger | .unusableConfiguration => ""

end Failure
end Interpose
