/-
  Rows of a specification.

  A row is checked from left to right, after its number of fields: the opcode literal, the name, the
  register arity and the extension. The first check that fails decides the error.

  * `RowFault`, `RowError`: what is wrong with a row, and where.
  * `Columns.toRecord`: the record that the fields of a row describe.
  * `Dialect.readRow`: the record that a line holds.
-/
import IsaTable.Opcode.Name
import IsaTable.Opcode.Record
import IsaTable.Spec.Dialect

namespace IsaTable

/-- What is wrong with a row. -/
inductive RowFault where
  | fieldCount (expected : Layout) (found : Nat)
  | opcode (token : String)
  | name (token : String)
  | arity (token : String)
  | extension (token : String)
deriving DecidableEq

/-- The fault in words. -/
def RowFault.message : RowFault → String
  | fieldCount expected found =>
    "malformed record, expected " ++ expected.expected ++ " fields but found " ++ Text.decimal found
  | opcode token => "invalid opcode value `" ++ token ++ "`"
  | name token => "`" ++ token ++ "` is not a valid opcode name"
  | arity token => "unknown register arity `" ++ token ++ "` (expected Z, O or T)"
  | extension token => "unknown sign extension `" ++ token ++ "` (expected Y, N or x)"

/-- A faulty row and its line. -/
structure RowError where
  line : Nat
  fault : RowFault
deriving DecidableEq

/-- The error in words. -/
def RowError.message (e : RowError) : String :=
  "line " ++ Text.decimal e.line ++ ": " ++ e.fault.message

/-- The record that the fields of a row describe. An empty note is none. -/
def Columns.toRecord (c : Columns) (line : Nat) : Except RowFault Record :=
  match Opcode.ofLiteral? c.opcode with
  | none => .error (.opcode c.opcode)
  | some opcode =>
    if isName c.name then
      match Arity.ofToken? c.arity with
      | none => .error (.arity c.arity)
      | some arity =>
        match Extension.ofToken? c.extension with
        | none => .error (.extension c.extension)
        | some extension =>
          .ok { opcode, name := c.name, shape := ⟨arity, extension⟩,
                note := c.note.filter (· ≠ ""), line }
    else .error (.name c.name)

/-- The record that a line holds. -/
def Dialect.readRow (d : Dialect) (line : Nat) (text : List Char) : Except RowError Record :=
  let fields := d.fields text
  match d.layout.columns? fields with
  | none => .error ⟨line, .fieldCount d.layout fields.length⟩
  | some columns => (columns.toRecord line).mapError (⟨line, ·⟩)

end IsaTable
