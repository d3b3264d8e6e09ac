import Interpose.CommandLine.Run
import Interpose.World.Declaration

/-! # The program

The commands on the classes of the library, with the files of the working directory. A class is
written to a file of its own first, which then takes the place of the old one.
-/
namespace Interpose.CommandLine

set_option autoImplicit false

/-- A workspace that holds the configuration file that the arguments name, if it can be read. -/
def openWorkspace (arguments : List String) : IO Workspace := do
  match configurationFile? arguments with
  | none => return {}
  | some path =>
    try
      let text ← IO.FS.readFile path.text
      return ((Workspace.writeFile path (.plain text)).run.run {}).2
    catch _ => return {}

def writeClass (generated : GeneratedClass) : IO Unit := do
  match generated.path with
  | none => return
  | some path =>
    let draft := path.text ++ ".part"
    IO.FS.createDirAll path.parent.text
    IO.FS.writeFile draft generated.source.text
    IO.FS.rename draft path.text

def writeFailed (generated : GeneratedClass) : Outcome :=
  .failed "" (.directoryNotWritable ((generated.path.map (·.parent.text)).getD ""))

end Interpose.CommandLine

open Interpose in
def main (arguments : List String) : IO UInt32 := do
  let some world := World.declare? [] | return 1
  let workspace ← CommandLine.openWorkspace arguments
  let outcome := ((CommandLine.run world arguments).run workspace).1
  let outcome ← match outcome.generated with
    | none => pure outcome
    | some generated =>
      try
        CommandLine.writeClass generated
        pure outcome
      catch _ => pure (CommandLine.writeFailed generated)
  IO.print outcome.output
  if let some failure := outcome.failure then
    IO.eprintln failure.message
  return outcome.exitCode.toUInt32
