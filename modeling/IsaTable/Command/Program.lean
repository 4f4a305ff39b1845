/-
  The program as a process.

  * `Environment`: the variables that the program looks at.
  * `threshold`, `shown`: which events are shown, and how.
  * `Failure.text`, `ArgumentError.stdout`: what is said when no command was carried out.
  * `Program.run`: a process, from its arguments to its exit code.
-/
import IsaTable.Command.Arguments
import IsaTable.Command.ErrorStream
import IsaTable.Command.Run
import IsaTable.Text.Terminal

namespace IsaTable

/-- The variables that the program looks at. -/
structure Environment where
  /-- The specification to use if none is named. -/
  spec : Option String := none
  /-- The level down to which events are shown, instead of the one on the command line. -/
  log : Option String := none

/-- The rank of the last level to be shown, by its name in any case; `off` shows none, and neither
    does a word that names no level. -/
def rankOfName (name : String) : Nat :=
  let name := name.toLower
  if name = "error" then Level.error.rank
  else if name = "warn" then Level.warn.rank
  else if name = "info" then Level.info.rank
  else if name = "debug" then Level.debug.rank
  else if name = "trace" then Level.trace.rank
  else 0

/-- The rank of the last level to be shown. -/
def threshold (log : Option String) (verbosity : Nat) : Nat :=
  match log with
  | some name => rankOfName name
  | none =>
    match verbosity with
    | 0 => Level.info.rank
    | 1 => Level.debug.rank
    | _ => Level.trace.rank

/-- The events that are shown, with messages that are safe on a terminal. -/
def shown (environment : Environment) (verbosity : Nat) (events : List Event) : List Event :=
  (events.filter fun event => event.level.rank ≤ threshold environment.log verbosity).map
    fun event => { event with message := Text.terminalSafe event.message }

/-- The causes of a failure as they are listed, numbered if there are several. -/
def causeLines : List String → List String
  | [] => []
  | [cause] => ["", "Caused by:", "    " ++ cause]
  | causes => "" :: "Caused by:" :: causes.zipIdx.map fun (cause, i) =>
      "    " ++ Text.decimal i ++ ": " ++ cause

/-- What is said about a failure. -/
def Failure.text (f : Failure) : String :=
  match f.chain with
  | [] => ""
  | outermost :: causes => "\n".intercalate (("Error: " ++ outermost) :: causeLines causes)

namespace ArgumentError

/-- The exit code when no command was carried out. -/
def exitCode : ArgumentError → UInt32
  | help | version => 0
  | _ => 2

/-- What is printed in place of a command. The wording of the help text is not fixed here. -/
def stdout : ArgumentError → String
  | version => "isainfo 0.1.0\n"
  | _ => ""

end ArgumentError

/-- What a process shows and leaves behind. -/
structure Exit where
  code : UInt32
  stdout : String
  stderr : List ErrorLine
  disk : Disk

namespace Exit

/-- The events that the error stream tells. -/
def log (exit : Exit) : List Event :=
  exit.stderr.filterMap ErrorLine.event?

/-- The error stream without its log lines. -/
def remarks (exit : Exit) : String :=
  String.ofList (Text.unlines (exit.stderr.filterMap ErrorLine.text?))

end Exit

namespace Program

/-- A process on a disk. -/
def run (environment : Environment) (arguments : List String) (disk : Disk) : Exit :=
  match Command.ofArguments environment.spec arguments with
  | .error e => ⟨e.exitCode, e.stdout, [], disk⟩
  | .ok command =>
    let outcome := command.run disk
    let events := shown environment command.verbosity outcome.events
    let log := events.flatMap Event.errorLines
    match outcome.result with
    | .ok () => ⟨0, outcome.stdout, log, outcome.disk⟩
    | .error failure =>
      let said := (Text.lineParts failure.text.toList).map ErrorLine.ofText
      ⟨1, outcome.stdout, log ++ said, outcome.disk⟩

end Program

end IsaTable
