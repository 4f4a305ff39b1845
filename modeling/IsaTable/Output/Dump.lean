/-
  Dumps of decode tables as JSON.

  * `Table.toJson`: an array with one object an opcode, in order.
  * `Table.dump`: its text.
-/
import IsaTable.Json.Printer
import IsaTable.Table.Basic

namespace IsaTable

/-- An opcode as a JSON object. -/
def Entry.toJson (e : Entry) : Json :=
  .object
    [("ordinal", .number e.ordinal.toNat),
     ("opcode", .number e.record.opcode.toNat),
     ("name", .string e.record.name),
     ("register_arity", .string e.record.shape.arity.name),
     ("sign_extension", .string e.record.shape.extension.name),
     ("note", match e.record.note with
       | none => .null
       | some note => .string note)]

namespace Table

/-- All opcodes as a JSON array. -/
def toJson (t : Table) : Json :=
  .array (t.toList.map Entry.toJson)

/-- The text of the JSON array, with a line end. -/
def dump (t : Table) : String :=
  String.ofList (t.toJson.pretty 0 ++ ['\n'])

end Table

end IsaTable
