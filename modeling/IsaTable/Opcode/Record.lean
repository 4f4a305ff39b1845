/-
  Opcode records: one row of a specification.
-/
import IsaTable.Opcode.Literal
import IsaTable.Opcode.Shape

namespace IsaTable

/-- An opcode as a specification describes it. -/
structure Record where
  opcode : Opcode
  name : String
  shape : Shape
  /-- Free text that does not bear on decoding. -/
  note : Option String
  /-- The line of the specification that holds the row, counted from one. -/
  line : Nat
deriving DecidableEq

end IsaTable
