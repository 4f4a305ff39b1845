/-
  Code lists: the two-letter codes of all opcodes in order.

  Each code is followed by a comma and a space, and a line ends after every so many codes.

  * `CodeList.write`: writes a code list into a sink.
  * `CodeList.pieces`: its text, piece by piece.
-/
import IsaTable.Output.Sink
import IsaTable.Table.Basic

namespace IsaTable.CodeList

/-- Writes the codes in order, and a line end behind every so many. -/
def write (perLine : Nat) (table : Table) (sink : Sink) : Except Sink Sink := do
  let mut sink := sink
  for (entry, position) in table.toList.zipIdx do
    sink ← sink.write (entry.record.shape.code ++ ", ")
    if perLine ≠ 0 ∧ (position + 1) % perLine = 0 then
      sink ← sink.writeLine ""
  return sink

/-- The code of the opcode at a position, with the line end that may follow it. -/
def piece (perLine position : Nat) (shape : Shape) : String :=
  shape.code ++ ", " ++ if perLine ≠ 0 ∧ (position + 1) % perLine = 0 then "\n" else ""

/-- The text of a code list with `perLine` codes a line, or without line ends if that is zero. -/
def pieces (perLine : Nat) (table : Table) : List String :=
  table.toList.zipIdx.map fun (entry, position) => piece perLine position entry.record.shape

end IsaTable.CodeList
