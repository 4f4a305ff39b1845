/-
  Decode shape of an opcode: its register arity together with the widening of its immediate.

  * `Shape.code`: the two-letter form in a code list.
  * `Shape.immediate`: the immediate in the low bits of a raw word, widened.
-/
import IsaTable.Opcode.Arity
import IsaTable.Opcode.Extension

namespace IsaTable

/-- All that decoding needs to know of an opcode. -/
structure Shape where
  arity : Arity
  extension : Extension
deriving DecidableEq

namespace Shape

/-- The two-letter form in a code list: the arity, then whether the immediate is signed. -/
def code (s : Shape) : String :=
  s.arity.token ++ if s.extension.isSigned then "S" else "U"

/-- The form shown to a reader. -/
def display (s : Shape) : String :=
  s.arity.display ++ ", " ++ s.extension.display

/-- The immediate in the low bits of a raw word, widened as the shape says. -/
def immediate (s : Shape) (raw : UInt64) : UInt64 :=
  s.extension.widen raw s.arity.immediateWidth

end Shape

end IsaTable
