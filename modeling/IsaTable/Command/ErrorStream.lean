/-
  The error stream of a process, line by line.

  The stream carries log lines and what is said about a failure. A log line holds a time, a level,
  the part of the program that speaks, and a message. An event is written as one log line, but a
  message with line feeds runs on behind it, on lines that are log lines only if they look like
  one.

  * `Event.ofLogLine?`: the event that a log line tells.
  * `ErrorLine`, `ErrorLine.ofText`: a line of the stream.
  * `Event.errorLines`: the lines that an event is written on.
  * `Event.errorLines_of_newline_notMem`: an event with one line is that line.
-/
import IsaTable.Report
import IsaTable.Text.Cut
import IsaTable.Text.Lines

namespace IsaTable

/-! ## Log lines -/

/-- The level with a name. -/
def Level.ofName? (name : List Char) : Option Level :=
  [error, warn, info, debug, trace].find? fun level => level.name.toList = name

/-- Whether a word is a time: date and time of day in universal time, down to any fraction of a
    second. -/
def isTime (word : List Char) : Bool :=
  let shape := word.map fun c => if c.isDigit then '0' else c
  match Text.afterStart? "0000-00-00T00:00:00".toList shape with
  | none => false
  | some ('.' :: fraction) => fraction.head? = some '0' && fraction.dropWhile (· = '0') = ['Z']
  | some rest => rest = ['Z']

/-- The first word of a text, and what follows the spaces behind it. -/
def firstWord (text : List Char) : List Char × List Char :=
  (text.takeWhile (· ≠ ' '), (text.dropWhile (· ≠ ' ')).dropWhile (· = ' '))

/-- The event that a log line tells. -/
def Event.ofLogLine? (line : List Char) : Option Event :=
  let (time, line) := firstWord line
  let (name, line) := firstWord line
  match isTime time, Level.ofName? name, Text.cutAt? [':', ' '] line with
  | true, some level, some (speaker, message) =>
    if speaker = [] || ' ' ∈ speaker then none else some ⟨level, String.ofList message⟩
  | _, _, _ => none

/-! ## Lines of the stream -/

/-- A line of the error stream. -/
inductive ErrorLine where
  | log (event : Event)
  | plain (text : List Char)

namespace ErrorLine

/-- A line by its text. -/
def ofText (text : List Char) : ErrorLine :=
  match Event.ofLogLine? text with
  | some event => log event
  | none => plain text

/-- The event of a log line. -/
def event? : ErrorLine → Option Event
  | log event => some event
  | plain _ => none

/-- The text of a line that is no log line. -/
def text? : ErrorLine → Option (List Char)
  | log _ => none
  | plain text => some text

end ErrorLine

/-- The lines that an event is written on: its log line, and the further lines of the message. -/
def Event.errorLines (event : Event) : List ErrorLine :=
  match Text.lineParts event.message.toList with
  | [] => []
  | first :: rest => .log ⟨event.level, String.ofList first⟩ :: rest.map .ofText

/-- An event whose message has one line is written on that line. -/
theorem Event.errorLines_of_newline_notMem {event : Event} (h : '\n' ∉ event.message.toList) :
    event.errorLines = [.log event] := by
  simp [errorLines, Text.lineParts_of_newline_notMem h]

end IsaTable
