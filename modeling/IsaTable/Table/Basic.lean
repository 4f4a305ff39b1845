/-
  Decode tables.

  A table holds the opcodes of a specification in its order, each with its position as its ordinal,
  and finds them by name, by opcode value and by ordinal. The two indices map a name or a value to
  the position of its entry.

  * `Table.entries`: the opcodes in specification order.
  * `Table.entry?`, `Table.entryOfValue?`, `Table.entryOfOrdinal?`: the three ways to find one.
-/
import IsaTable.Opcode.Record
import Std.Data.HashMap

namespace IsaTable

/-- An opcode of a table. -/
structure Entry where
  /-- The position in the specification, counted from zero. -/
  ordinal : UInt32
  record : Record
deriving DecidableEq

/-- The opcodes of a specification, with indices by name and by value. -/
structure Table where
  entries : Array Entry
  byName : Std.HashMap String Nat
  byValue : Std.HashMap Opcode Nat

namespace Table

/-- The table without opcodes. -/
def empty : Table :=
  ⟨#[], ∅, ∅⟩

/-- The number of opcodes. -/
def size (t : Table) : Nat :=
  t.entries.size

/-- The opcodes in specification order. -/
def toList (t : Table) : List Entry :=
  t.entries.toList

/-- The names in specification order. -/
def names (t : Table) : List String :=
  t.toList.map (·.record.name)

/-- The opcode of a name. -/
def entry? (t : Table) (name : String) : Option Entry :=
  t.byName[name]?.bind (t.entries[·]?)

/-- The opcode of a value. -/
def entryOfValue? (t : Table) (value : Opcode) : Option Entry :=
  t.byValue[value]?.bind (t.entries[·]?)

/-- The opcode at a position. -/
def entryOfOrdinal? (t : Table) (ordinal : UInt32) : Option Entry :=
  t.entries[ordinal.toNat]?

/-- The decode shape of a name. -/
def shape? (t : Table) (name : String) : Option Shape :=
  (t.entry? name).map (·.record.shape)

/-- The name and the decode shape of a value. -/
def shapeOfValue? (t : Table) (value : Opcode) : Option (String × Shape) :=
  (t.entryOfValue? value).map fun e => (e.record.name, e.record.shape)

/-- The ordinal of a name. -/
def ordinal? (t : Table) (name : String) : Option UInt32 :=
  (t.entry? name).map (·.ordinal)

end Table

end IsaTable
