/-
  Widening of immediates to 64 bits.

  * `Extension`: what fills the bits above an immediate, copies of its top bit or zeros.
  * `Extension.widen`: the low bits of a word, widened to the whole word.
-/
namespace IsaTable

/-- What fills the bits above an immediate. -/
inductive Extension where
  | sign
  | zero
deriving DecidableEq

namespace Extension

/-- The letter that a specification is written with. -/
def token : Extension → String
  | sign => "Y"
  | zero => "N"

/-- The extension that a letter stands for. The letter `x` is an old spelling of `N`. -/
def ofToken? (token : String) : Option Extension :=
  if token = "Y" then some sign
  else if token = "N" ∨ token = "x" then some zero
  else none

/-- The name of the extension in generated files. -/
def name : Extension → String
  | sign => "SignExtend"
  | zero => "ZeroExtend"

/-- The form shown to a reader. -/
def display : Extension → String
  | sign => "sign-extend"
  | zero => "zero-extend"

/-- Whether the top bit is copied. -/
def isSigned : Extension → Bool
  | sign => true
  | zero => false

/-- A word whose lowest `width < 64` bits are set. -/
def lowBits (width : Nat) : UInt64 :=
  ((1 : UInt64) <<< UInt64.ofNat width) - 1

/-- The top bit of a field of `0 < width ≤ 64` bits. -/
def topBit (width : Nat) : UInt64 :=
  (1 : UInt64) <<< UInt64.ofNat (width - 1)

/-- Widens the lowest `width` bits of a word to the whole word. No bits give zero, and a field as
    wide as the word or wider is the word itself. -/
def widen (e : Extension) (value : UInt64) (width : Nat) : UInt64 :=
  if width = 0 then 0
  else if 64 ≤ width then value
  else
    let field := value &&& lowBits width
    if e.isSigned ∧ field &&& topBit width ≠ 0 then field ||| ~~~lowBits width else field

theorem ofToken?_eq_some_iff {t : String} {e : Extension} :
    ofToken? t = some e ↔ t = e.token ∨ t = "x" ∧ e = zero := by
  constructor
  · intro h
    unfold ofToken? at h
    split at h
    · cases h; left; assumption
    split at h
    · next ht => cases h; exact ht.imp id (⟨·, rfl⟩)
    · cases h
  · rintro (rfl | ⟨rfl, rfl⟩)
    · cases e <;> decide
    · decide

@[simp] theorem widen_width_zero (e : Extension) (value : UInt64) : e.widen value 0 = 0 := rfl

theorem widen_of_le (e : Extension) (value : UInt64) {width : Nat} (h : 64 ≤ width) :
    e.widen value width = value := by
  simp [widen, h, show width ≠ 0 by omega]

end Extension

end IsaTable
