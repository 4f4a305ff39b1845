/-
  The command line.

  Reads the file that a command names, evaluates the command, and carries out its effect on the
  file system and the standard streams.
-/
import IsaTable.Command.Program
import IsaTable.Command.Usage

namespace IsaTable

/-- The number of a system error. Some operations give it negated. -/
def errorNumber (code : UInt32) : UInt32 :=
  if code < 0x80000000 then code else 0 - code

/-- The fault behind a system error. -/
def FileFault.ofSystem (e : IO.Error) : FileFault :=
  match e with
  | .noFileOrDirectory .. => .notFound
  | .inappropriateType _ code _ => if errorNumber code = 21 then .isFolder else .notFolder
  | .invalidArgument _ code _ =>
    if errorNumber code = 36 then .nameTooLong else .other (toString e)
  | .permissionDenied .. => .other "Permission denied (os error 13)"
  | _ => .other (toString e)

/-- Runs a file operation and names its fault. -/
def attempt {α : Type} (operation : IO α) : IO (Except FileFault α) := do
  match ← operation.toBaseIO with
  | .ok a => return .ok a
  | .error e => return .error (.ofSystem e)

/-- Shows the events of the wanted levels. -/
def showEvents (environment : Environment) (command : Command) (events : List Event) :
    IO Unit := do
  for event in shown environment command.verbosity events do
    IO.eprintln (event.level.name ++ " " ++ event.message)

/-- Ends with a failure. -/
def endWith (failure : Failure) : IO UInt32 := do
  IO.eprintln failure.text
  return 1

/-- Carries out a command. -/
def carryOut (environment : Environment) (command : Command) : IO UInt32 := do
  let content ← attempt (IO.FS.readBinFile command.path)
  let report := command.evaluate content
  showEvents environment command report.events
  match report.result with
  | .error failure => endWith failure
  | .ok (.print text) =>
    IO.print text
    return 0
  | .ok (.save path text receipt) =>
    match ← attempt (IO.FS.writeBinFile path text.toUTF8) with
    | .error fault => endWith (.unwritable path fault)
    | .ok () =>
      showEvents environment command [receipt]
      return 0

/-- Answers a command line that names no command. -/
def answer (e : ArgumentError) : IO UInt32 := do
  match e with
  | .help => IO.print usage
  | .version => IO.print e.stdout
  | .noArguments => IO.eprint usage
  | _ => IO.eprintln ("error: " ++ e.message ++ "\n\nFor more information, try '--help'.")
  return e.exitCode

end IsaTable

/-- The program. -/
def main (arguments : List String) : IO UInt32 := do
  let environment : IsaTable.Environment :=
    { spec := ← IO.getEnv "ISAINFO_SPEC", log := ← IO.getEnv "RUST_LOG" }
  match IsaTable.Command.ofArguments environment.spec arguments with
  | .error e => IsaTable.answer e
  | .ok command => IsaTable.carryOut environment command
