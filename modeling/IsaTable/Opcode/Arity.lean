/-
  Register arity: how many register operands an opcode has.

  The arity fixes the width of the immediate that fills the rest of the instruction word.

  * `Arity.ofToken?`, `Arity.token`: the letter in a specification.
  * `Arity.immediateWidth`: bits left for the immediate.
-/
namespace IsaTable

/-- The number of register operands of an opcode. -/
inductive Arity where
  | zero
  | one
  | two
deriving DecidableEq

namespace Arity

/-- The number of register operands. -/
def count : Arity → Nat
  | zero => 0
  | one => 1
  | two => 2

/-- The width of the immediate field in bits. -/
def immediateWidth : Arity → Nat
  | zero => 26
  | one => 16
  | two => 6

/-- The letter that stands for the arity in a specification and in a code list. -/
def token : Arity → String
  | zero => "Z"
  | one => "O"
  | two => "T"

/-- The arity that a letter stands for. -/
def ofToken? (token : String) : Option Arity :=
  if token = "Z" then some zero
  else if token = "O" then some one
  else if token = "T" then some two
  else none

/-- The name of the arity in generated files. -/
def name : Arity → String
  | zero => "ZeroOperandRegisters"
  | one => "OneOperandRegister"
  | two => "TwoOperandRegisters"

/-- The short form shown to a reader. -/
def display : Arity → String
  | zero => "ZeroReg"
  | one => "OneReg"
  | two => "TwoReg"

/-- A text is the token of an arity just when it is read as that arity. -/
theorem ofToken?_eq_some_iff {t : String} {a : Arity} : ofToken? t = some a ↔ t = a.token := by
  constructor
  · intro h
    unfold ofToken? at h
    split at h
    · cases h; assumption
    split at h
    · cases h; assumption
    split at h
    · cases h; assumption
    · cases h
  · rintro rfl
    cases a <;> decide

end Arity

end IsaTable
