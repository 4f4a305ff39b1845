/-
  Running commands on a disk.

  * `Outcome`: what a run tells, prints and leaves behind.
  * `Command.run`: evaluates a command on the file it names and carries out the effect.
-/
import IsaTable.Command.Basic

namespace IsaTable

/-- What a run tells, prints and leaves behind. -/
structure Outcome where
  events : List Event
  stdout : String
  disk : Disk
  result : Except Failure Unit

/-- Carries out the effect of a command. Nothing is printed or saved after a failure. -/
def Command.run (c : Command) (disk : Disk) : Outcome :=
  let report := c.evaluate (disk.read c.path)
  match report.result with
  | .error failure => ⟨report.events, "", disk, .error failure⟩
  | .ok (.print text) => ⟨report.events, text, disk, .ok ()⟩
  | .ok (.save path text receipt) =>
    match disk.write path text.toUTF8 with
    | .error fault => ⟨report.events, "", disk, .error (.unwritable path fault)⟩
    | .ok disk => ⟨report.events ++ [receipt], "", disk, .ok ()⟩

end IsaTable
