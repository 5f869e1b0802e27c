import ShallowTransfer.CommandLine.Commands

/-!
The program: its first argument is the name of a command, the others are those of the command.
-/

namespace ShallowTransfer.CommandLine

/-- The reason why a file of the machine cannot be used. -/
def fileError : IO.Error → FileError
  | .noFileOrDirectory .. => .notFound
  | .inappropriateType .. => .isADirectory
  | .permissionDenied .. => .permissionDenied
  | .alreadyExists .. => .alreadyExists
  | .invalidArgument .. => .invalidName
  | _ => .other

/-- Turns an error of the machine into a value. -/
def attempt {α : Type} (action : IO α) : IO (Except FileError α) := do
  match ← action.toBaseIO with
  | .ok a => return .ok a
  | .error e => return .error (fileError e)

instance : Files IO where
  read path := attempt do return (← IO.FS.readBinFile path).data.toList
  write path bytes := attempt (IO.FS.writeBinFile path ⟨bytes.toArray⟩)
  makeDirectory path := attempt (if path.isEmpty then return () else IO.FS.createDirAll path)

/-- Whether a command reads the standard input. -/
def Command.readsInput : Command → Bool
  | .train .. => false
  | .translate _ _ _ _ _ text => text.isNone

/-- Runs a command on the machine. -/
def runOnMachine (command : Command) : IO Exit := do
  let input ← if command.readsInput then (← IO.getStdin).readBinToEnd else pure ByteArray.empty
  command.run input.data.toList

end ShallowTransfer.CommandLine

open ShallowTransfer.CommandLine in
/-- Runs the command that the arguments name. -/
def main (args : List String) : IO UInt32 := do
  match Command.parse (args.headD "") args.tail with
  | .error refusal => return UInt32.ofNat refusal.exit.code
  | .ok command =>
    let result ← runOnMachine command
    IO.print result.output
    return UInt32.ofNat result.code
