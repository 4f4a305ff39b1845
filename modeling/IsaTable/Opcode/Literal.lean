/-
  Opcode literals.

  A literal is a run of digits: hexadecimal behind `0x` or `0X`, binary behind `0b` or `0B`, decimal
  otherwise. It denotes a 64-bit word, and a larger number is no literal.

  * `radix`: the base and the digits of a token.
  * `Opcode.ofLiteral?`: the opcode that a token denotes.
  * `ofLiteral?_hex`: an opcode printed in hexadecimal is a literal for it.
-/
import IsaTable.Text.Numeral

namespace IsaTable

/-- The value by which an instruction word names an opcode. -/
abbrev Opcode := UInt64

namespace Opcode

/-- The base of a literal and its digits. -/
def radix : List Char → Nat × List Char
  | '0' :: 'x' :: digits => (16, digits)
  | '0' :: 'X' :: digits => (16, digits)
  | '0' :: 'b' :: digits => (2, digits)
  | '0' :: 'B' :: digits => (2, digits)
  | digits => (10, digits)

/-- The opcode that a token denotes. Signs, separators and blanks are no digits. -/
def ofLiteral? (token : String) : Option Opcode :=
  let (base, digits) := radix token.toList
  if digits = [] then none
  else (Text.valueOf? base digits).bind fun n =>
    if n < UInt64.size then some (UInt64.ofNat n) else none

/-- An opcode as it is shown, in hexadecimal. -/
def hex (opcode : Opcode) : String :=
  Text.hex opcode.toNat

/-- **A shown opcode is a literal for it.** -/
theorem ofLiteral?_hex (opcode : Opcode) : ofLiteral? opcode.hex = some opcode := by
  have hr : radix opcode.hex.toList = (16, Text.numeral 16 opcode.toNat) := by
    simp [hex, Text.hex, radix]
  have hv := Text.valueOf?_numeral (show 2 ≤ 16 by decide) (by decide) opcode.toNat
  simp [ofLiteral?, hr, hv, Text.numeral_ne_nil, opcode.toNat_lt]

end Opcode

end IsaTable
