/-
  Decode dispatch of a generated module.

  The module declares an enum with one variant an opcode, and four tables on it: all variants in
  order, the decode shape of a variant, the variant of an opcode value, and the text that a variant
  is displayed as. Of several arms for one argument the first counts.

  * `Dispatch`: what the enum and its tables say.
  * `Dispatch.ofTable`: the dispatch of a decode table, unless two names collide.
  * `Dispatch.variantOf?`, `Dispatch.shapeOf?`, `Dispatch.labelOf?`, `Dispatch.discriminantOf?`:
    what the tables answer.
-/
import IsaTable.Dispatch.Variant
import IsaTable.Table.Basic

namespace IsaTable

/-- What a generated module is to be called and to display. -/
structure DispatchStyle where
  /-- The name of the enum. -/
  enumName : String := "OpCode"
  /-- What stands before the name of an opcode where it is displayed. -/
  label : String := "Op"
deriving DecidableEq

/-- What a generated module says. Variants are given by their identifiers. -/
structure Dispatch where
  enumName : String
  /-- The number of variants. -/
  count : Nat
  /-- The variants and their discriminants. -/
  variants : List (String × UInt32)
  /-- All variants in order. -/
  all : List String
  /-- The decode shapes of the variants. -/
  shapes : List (String × Shape)
  /-- The variants of the opcode values. -/
  values : List (Opcode × String)
  /-- The texts that the variants are displayed as. -/
  labels : List (String × String)
deriving DecidableEq

namespace Dispatch

/-- The dispatch of a decode table, unless two names have one identifier. -/
def ofTable (style : DispatchStyle) (table : Table) : Except Collision Dispatch :=
  (Variant.idents table.names).map fun idents =>
    let rows := idents.zip table.toList
    { enumName := style.enumName
      count := table.size
      variants := rows.map fun (ident, entry) => (ident, entry.ordinal)
      all := idents
      shapes := rows.map fun (ident, entry) => (ident, entry.record.shape)
      values := rows.map fun (ident, entry) => (entry.record.opcode, ident)
      labels := rows.map fun (ident, entry) => (ident, style.label ++ entry.record.name) }

end Dispatch

end IsaTable
