/-
  What widening means.

  Widening is computed with masks. In terms of numbers, it gives the one word that has the same lowest
  bits and that these bits can stand for, as a natural number or as an integer with a sign. Everything
  else about it follows from that.

  * `Extension.Fits`: the words that a number of bits can stand for.
  * `Extension.eq_widen_iff`: what widening gives, as the one word of that kind.
  * `Extension.widen?`: widening with all its shifts and differences checked; `widen?_eq` says that none
    of these checks fails.
  * `Extension.widen_twosComplement`: widening is truncation and extension in two's complement.
  * `Extension.widen_again`: widening what was widened, and widening sums.
-/
import IsaTable.Opcode.Shape
import Mathlib.Data.Int.ModEq
import Mathlib.Data.Nat.Bitwise
import Mathlib.Data.Nat.PSub

namespace IsaTable

/-! ## Signed readings -/

theorem toInt_toInt64 (x : UInt64) : x.toInt64.toInt = (x.toNat : Int).bmod (2 ^ 64) :=
  BitVec.toInt_eq_toNat_bmod x.toBitVec

theorem toInt_toInt64_of_lt {x : UInt64} (h : x.toNat < 2 ^ 63) : x.toInt64.toInt = x.toNat := by
  rw [toInt_toInt64]
  exact Int.bmod_eq_of_le_mul_two (by omega) (by omega)

theorem toInt_toInt64_of_ge {x : UInt64} (h : 2 ^ 63 ≤ x.toNat) :
    x.toInt64.toInt = x.toNat - 2 ^ 64 := by
  have hlt := x.toNat_lt
  rw [toInt_toInt64, ← Int.sub_bmod_right]
  exact Int.bmod_eq_of_le_mul_two (by omega) (by omega)

namespace Extension

/-! ## Masks -/

theorem toNat_one_shiftLeft {amount : Nat} (h : amount < 64) :
    ((1 : UInt64) <<< UInt64.ofNat amount).toNat = 2 ^ amount := by
  have hpow : 2 ^ amount < 2 ^ 64 := Nat.pow_lt_pow_right (by decide) h
  have hsize : amount < UInt64.size := by
    rw [UInt64.size]
    omega
  rw [UInt64.toNat_shiftLeft, UInt64.toNat_ofNat_of_lt' hsize, Nat.mod_eq_of_lt h,
    Nat.shiftLeft_eq, UInt64.toNat_one, Nat.one_mul, Nat.mod_eq_of_lt hpow]

theorem one_le_one_shiftLeft {amount : Nat} (h : amount < 64) :
    (1 : UInt64) ≤ 1 <<< UInt64.ofNat amount := by
  rw [UInt64.le_iff_toNat_le, toNat_one_shiftLeft h]
  exact Nat.one_le_two_pow

theorem toNat_lowBits {width : Nat} (h : width < 64) : (lowBits width).toNat = 2 ^ width - 1 := by
  rw [lowBits, UInt64.toNat_sub_of_le _ _ (one_le_one_shiftLeft h), toNat_one_shiftLeft h,
    UInt64.toNat_one]

/-- The low bits of a word are its remainder. -/
theorem toNat_and_lowBits (value : UInt64) {width : Nat} (h : width < 64) :
    (value &&& lowBits width).toNat = value.toNat % 2 ^ width := by
  rw [UInt64.toNat_and, toNat_lowBits h, Nat.and_two_pow_sub_one_eq_mod]

/-- The top bit of a field is set in its upper half. -/
theorem and_topBit_ne_zero_iff {x : UInt64} {width : Nat} (hpos : 0 < width) (h : width < 64)
    (hx : x.toNat < 2 ^ width) : x &&& topBit width ≠ 0 ↔ 2 ^ (width - 1) ≤ x.toNat := by
  have htop : (topBit width).toNat = 2 ^ (width - 1) := toNat_one_shiftLeft (by omega)
  rw [ne_eq, ← UInt64.toNat_inj, UInt64.toNat_and, htop, Nat.and_two_pow]
  constructor
  · intro hne
    apply Nat.ge_two_pow_of_testBit
    by_contra hbit
    rw [Bool.eq_false_of_not_eq_true hbit] at hne
    simp at hne
  · intro hle
    have hlt : x.toNat < 2 ^ (width - 1 + 1) := by rwa [Nat.sub_add_cancel hpos]
    rw [Nat.testBit_of_two_pow_le_and_two_pow_add_one_gt hle hlt]
    simp

/-- Setting all bits above a field adds a multiple of its size. -/
theorem toNat_or_not_lowBits {x : UInt64} {width : Nat} (h : width < 64) (hx : x.toNat < 2 ^ width) :
    (x ||| ~~~lowBits width).toNat = 2 ^ 64 - 2 ^ width + x.toNat := by
  have hpow : 2 ^ width * 2 ^ (64 - width) = 2 ^ 64 := by
    rw [← Nat.pow_add, Nat.add_sub_cancel' h.le]
  have hnot : (~~~lowBits width).toNat = 2 ^ width * (2 ^ (64 - width) - 1) := by
    have hpos := Nat.two_pow_pos width
    rw [UInt64.toNat_not, toNat_lowBits h, Nat.mul_sub, hpow, UInt64.size]
    omega
  rw [UInt64.toNat_or, hnot, Nat.or_comm, ← Nat.two_pow_add_eq_or_of_lt hx, Nat.mul_sub, hpow,
    Nat.mul_one]

/-- A field that is neither empty nor the whole word, widened. -/
theorem toNat_widen (e : Extension) (value : UInt64) {width : Nat} (hpos : 0 < width)
    (h : width < 64) :
    (e.widen value width).toNat =
      if e = sign ∧ 2 ^ (width - 1) ≤ value.toNat % 2 ^ width then
        2 ^ 64 - 2 ^ width + value.toNat % 2 ^ width
      else value.toNat % 2 ^ width := by
  have hfield := toNat_and_lowBits value h
  have hlt : (value &&& lowBits width).toNat < 2 ^ width := by
    rw [hfield]
    exact Nat.mod_lt _ (Nat.two_pow_pos width)
  have hsigned : e.isSigned = true ↔ e = sign := by cases e <;> decide
  simp only [widen, if_neg hpos.ne', if_neg (Nat.not_le.2 h), hsigned,
    and_topBit_ne_zero_iff hpos h hlt, hfield]
  split
  · rw [toNat_or_not_lowBits h hlt, hfield]
  · exact hfield

/-! ## Words that fit -/

/-- The words that `width` bits can stand for: as natural numbers, or as integers if the top bit is a
    sign. The integer is doubled, so that no bits stand for zero alone. -/
def Fits : Extension → Nat → UInt64 → Prop
  | zero, width, x => x.toNat < 2 ^ width
  | sign, width, x => -2 ^ width ≤ 2 * x.toInt64.toInt ∧ 2 * x.toInt64.toInt < 2 ^ width

instance (e : Extension) (width : Nat) (x : UInt64) : Decidable (e.Fits width x) :=
  match e with
  | zero => inferInstanceAs (Decidable (_ < _))
  | sign => inferInstanceAs (Decidable (_ ∧ _))

section
variable {e : Extension} {width : Nat} {x y value : UInt64}

theorem Fits.mono {wide : Nat} (h : e.Fits width x) (hle : width ≤ wide) : e.Fits wide x := by
  have hpow : 2 ^ width ≤ 2 ^ wide := Nat.pow_le_pow_right (by decide) hle
  cases e with
  | zero => exact Nat.lt_of_lt_of_le h hpow
  | sign =>
    obtain ⟨hlow, hhigh⟩ := h
    have hpow : (2 : Int) ^ width ≤ 2 ^ wide := by exact_mod_cast hpow
    exact ⟨by omega, by omega⟩

theorem fits_of_le (h : 64 ≤ width) (x : UInt64) : e.Fits width x := by
  have hword : e.Fits 64 x := by
    cases e with
    | zero => exact x.toNat_lt
    | sign => exact ⟨BitVec.le_two_mul_toInt, BitVec.two_mul_toInt_lt⟩
  exact hword.mono h

theorem fits_min_iff : e.Fits (min width 64) x ↔ e.Fits width x := by
  constructor
  · intro h
    exact h.mono (Nat.min_le_left width 64)
  · intro h
    rcases Nat.le_total width 64 with hle | hle
    · rwa [Nat.min_eq_left hle]
    · exact fits_of_le (Nat.le_min.2 ⟨hle, Nat.le_refl 64⟩) x

theorem fits_sign_iff (hpos : 0 < width) :
    sign.Fits width x ↔
      -2 ^ (width - 1) ≤ x.toInt64.toInt ∧ x.toInt64.toInt < 2 ^ (width - 1) := by
  have hhalf : (2 : Int) ^ width = 2 ^ (width - 1) * 2 := by
    rw [← pow_succ, Nat.sub_add_cancel hpos]
  rw [Fits, hhalf]
  constructor
  · rintro ⟨hlow, hhigh⟩
    exact ⟨by omega, by omega⟩
  · rintro ⟨hlow, hhigh⟩
    exact ⟨by omega, by omega⟩

/-- The signed reading of a word that fits is the balanced remainder of its lowest bits. -/
theorem Fits.toInt_eq_bmod (h : sign.Fits width x) :
    x.toInt64.toInt = (x.toNat : Int).bmod (2 ^ min width 64) := by
  have hdvd : 2 ^ min width 64 ∣ 2 ^ 64 := Nat.pow_dvd_pow 2 (Nat.min_le_right width 64)
  obtain ⟨hlow, hhigh⟩ := fits_min_iff.2 h
  rw [← Int.bmod_bmod_of_dvd hdvd, ← toInt_toInt64]
  refine (Int.bmod_eq_of_le_mul_two ?_ ?_).symm
  · push_cast
    omega
  · push_cast
    omega

/-- **A word that fits is told by its lowest bits.** -/
theorem Fits.eq_of_modEq (hx : e.Fits width x) (hy : e.Fits width y)
    (h : x.toNat ≡ y.toNat [MOD 2 ^ min width 64]) : x = y := by
  cases e with
  | zero => exact UInt64.toNat_inj.1 (h.eq_of_lt_of_lt (fits_min_iff.2 hx) (fits_min_iff.2 hy))
  | sign =>
    have hmod : x.toNat % 2 ^ min width 64 = y.toNat % 2 ^ min width 64 := h
    have hint : x.toInt64.toInt = y.toInt64.toInt := by
      rw [hx.toInt_eq_bmod, hy.toInt_eq_bmod, ← Int.emod_bmod, ← Int.natCast_mod, hmod,
        Int.natCast_mod, Int.emod_bmod]
    exact UInt64.toBitVec_inj.1 (BitVec.eq_of_toInt_eq hint)

/-! ## What widening gives -/

theorem fits_widen (e : Extension) (value : UInt64) (width : Nat) :
    e.Fits width (e.widen value width) := by
  rcases Nat.eq_zero_or_pos width with rfl | hpos
  · rw [widen_width_zero]
    cases e <;> decide
  rcases Nat.lt_or_ge width 64 with h | h
  · have hvalue := toNat_widen e value hpos h
    have hlt : value.toNat % 2 ^ width < 2 ^ width := Nat.mod_lt _ (Nat.two_pow_pos width)
    cases e with
    | zero =>
      rw [if_neg (by simp)] at hvalue
      rwa [Fits, hvalue]
    | sign =>
      -- all that is left is linear in the size of the field and its half
      have hhalf : 2 ^ width = 2 ^ (width - 1) * 2 := by
        rw [← pow_succ, Nat.sub_add_cancel hpos]
      have hbound : 2 ^ width ≤ 2 ^ 63 := Nat.pow_le_pow_right (by decide) (by omega)
      have hcast : (2 : Int) ^ width = (2 ^ width : Nat) := by rw [Int.natCast_pow, Int.cast_ofNat_Int]
      rw [Fits, hcast]
      split at hvalue
      · next hneg =>
        have hhigh := hneg.2
        rw [toInt_toInt64_of_ge (by omega)]
        omega
      · next hneg =>
        have hlow : value.toNat % 2 ^ width < 2 ^ (width - 1) := by simpa using hneg
        rw [toInt_toInt64_of_lt (by omega)]
        omega
  · exact fits_of_le h _

/-- Widening keeps the lowest bits. -/
theorem widen_modEq (e : Extension) (value : UInt64) (width : Nat) :
    (e.widen value width).toNat ≡ value.toNat [MOD 2 ^ min width 64] := by
  rcases Nat.eq_zero_or_pos width with rfl | hpos
  · exact Nat.modEq_one
  rcases Nat.lt_or_ge width 64 with h | h
  · rw [toNat_widen e value hpos h, Nat.min_eq_left h.le]
    split
    · have hdvd : 2 ^ width ∣ 2 ^ 64 - 2 ^ width :=
        Nat.dvd_sub (Nat.pow_dvd_pow 2 h.le) (Nat.dvd_refl _)
      have hsum := (Nat.modEq_zero_iff_dvd.2 hdvd).add (Nat.mod_modEq value.toNat (2 ^ width))
      rwa [Nat.zero_add] at hsum
    · exact Nat.mod_modEq _ _
  · rw [widen_of_le e value h]

/-- **Widening gives the one word that fits and has the same lowest bits.** -/
theorem eq_widen_iff :
    x = e.widen value width ↔
      e.Fits width x ∧ x.toNat ≡ value.toNat [MOD 2 ^ min width 64] := by
  have hmod := widen_modEq e value width
  constructor
  · rintro rfl
    exact ⟨fits_widen e value width, hmod⟩
  · rintro ⟨hfits, hx⟩
    exact hfits.eq_of_modEq (fits_widen e value width) (hx.trans hmod.symm)

/-- Words are widened alike just when their lowest bits agree. -/
theorem widen_eq_widen_iff :
    e.widen x width = e.widen y width ↔ x.toNat ≡ y.toNat [MOD 2 ^ min width 64] := by
  have hmod := widen_modEq e x width
  rw [eq_widen_iff]
  constructor
  · rintro ⟨-, h⟩
    exact hmod.symm.trans h
  · intro h
    exact ⟨fits_widen e x width, hmod.trans h⟩

theorem widen_of_fits (h : e.Fits width x) : e.widen x width = x :=
  (eq_widen_iff.2 ⟨h, Nat.ModEq.refl _⟩).symm

/-- Zero extension is the remainder, whatever the width. -/
theorem toNat_widen_zero (value : UInt64) (width : Nat) :
    (zero.widen value width).toNat = value.toNat % 2 ^ width := by
  have hfits : (zero.widen value width).toNat < 2 ^ width := fits_widen zero value width
  rcases Nat.le_total width 64 with h | h
  · have hmod := widen_modEq zero value width
    rw [Nat.min_eq_left h] at hmod
    exact (Nat.mod_eq_of_modEq hmod.symm hfits).symm
  · rw [widen_of_le zero value h] at hfits ⊢
    exact (Nat.mod_eq_of_lt hfits).symm

end

/-! ## Checked steps -/

/-- One bit, shifted to the left by less than the width of a word. -/
def bit? (amount : Nat) : Option UInt64 :=
  if amount < 64 then some ((1 : UInt64) <<< UInt64.ofNat amount) else none

/-- A difference of words that is not negative. -/
def sub? (x y : UInt64) : Option UInt64 :=
  if y ≤ x then some (x - y) else none

/-- Widening that gives up where a shift is as wide as a word or a difference is negative. -/
def widen? (e : Extension) (value : UInt64) (width : Nat) : Option UInt64 :=
  if width = 0 then some 0
  else if 64 ≤ width then some value
  else do
    let mask ← sub? (← bit? width) 1
    let field := value &&& mask
    match e with
    | zero => return field
    | sign =>
      let top ← bit? (← width.ppred)
      return if field &&& top ≠ 0 then field ||| ~~~mask else field

/-- **No shift is as wide as a word, and no difference is negative.** -/
theorem widen?_eq (e : Extension) (value : UInt64) (width : Nat) :
    e.widen? value width = some (e.widen value width) := by
  unfold widen?
  split
  · next h => rw [h, widen_width_zero]
  split
  · next h => rw [widen_of_le e value h]
  next hpos hword =>
  have hbit : bit? width = some (1 <<< UInt64.ofNat width) := if_pos (by omega)
  have hmask : sub? (1 <<< UInt64.ofNat width) 1 = some (lowBits width) :=
    if_pos (one_le_one_shiftLeft (by omega))
  have hplace : width.ppred = some (width - 1) := Nat.ppred_eq_some.2 (by omega)
  have htop : bit? (width - 1) = some (topBit width) := if_pos (by omega)
  cases e with
  | zero => simp [hbit, hmask, widen, hpos, hword, isSigned]
  | sign => simp [hbit, hmask, hplace, htop, widen, hpos, hword, isSigned]

end Extension

/-! ## Immediates -/

theorem Arity.immediateWidth_le (a : Arity) : a.immediateWidth ≤ 64 := by
  cases a <;> decide

/-- Two raw words have the same immediate just when they agree in the bits of the field. -/
theorem Shape.immediate_eq_iff {s : Shape} {x y : UInt64} :
    s.immediate x = s.immediate y ↔ x.toNat ≡ y.toNat [MOD 2 ^ s.arity.immediateWidth] := by
  rw [immediate, immediate, Extension.widen_eq_widen_iff, Nat.min_eq_left s.arity.immediateWidth_le]

namespace Extension

/-- **Widening is truncation and extension in two's complement.** Zero extension is the remainder by
    `2 ^ width`. Sign extension of no bits is zero; otherwise it is the one word that agrees with the
    value in the lowest bits and whose signed reading is in the range of so many bits. The computation
    never shifts by the width of a word or more and never has a negative difference. So an immediate
    depends on the bits of its field alone, and different fields give different immediates. -/
theorem widen_twosComplement (value : UInt64) (width : Nat) :
    (zero.widen value width).toNat = value.toNat % 2 ^ width ∧
    (64 ≤ width → zero.widen value width = value) ∧
    sign.widen value 0 = 0 ∧
    (0 < width → ∀ x : UInt64, x = sign.widen value width ↔
      x.toNat ≡ value.toNat [MOD 2 ^ min width 64] ∧
        -2 ^ (min width 64 - 1) ≤ x.toInt64.toInt ∧ x.toInt64.toInt < 2 ^ (min width 64 - 1)) ∧
    (∀ e : Extension, e.widen? value width = some (e.widen value width)) ∧
    ∀ s : Shape,
      (∀ x y : UInt64,
        x.toNat % 2 ^ s.arity.immediateWidth = y.toNat % 2 ^ s.arity.immediateWidth →
          s.immediate x = s.immediate y) ∧
      ∀ x y : UInt64, x.toNat < 2 ^ s.arity.immediateWidth → y.toNat < 2 ^ s.arity.immediateWidth →
        s.immediate x = s.immediate y → x = y := by
  refine ⟨toNat_widen_zero value width, widen_of_le zero value, widen_width_zero sign value, ?_,
    fun e => widen?_eq e value width, fun s => ⟨fun x y h => Shape.immediate_eq_iff.2 h, ?_⟩⟩
  · intro hpos x
    have hmin : 0 < min width 64 := Nat.lt_min.2 ⟨hpos, by decide⟩
    rw [eq_widen_iff, ← fits_min_iff, fits_sign_iff hmin, and_comm]
  · intro x y hx hy h
    have hmod := Shape.immediate_eq_iff.1 h
    exact UInt64.toNat_inj.1 (hmod.eq_of_lt_of_lt hx hy)

/-- A six-bit field whose top bit is set, with other bits above it, and the two fields of an immediate
    that differ in the top bit. -/
theorem widen_twosComplement_negative :
    0 < 6 ∧ 0xFFFFFFFFFFFFFFE0 = sign.widen 0xABCD0020 6 ∧
      Shape.immediate ⟨.two, .sign⟩ 0x20 ≠ Shape.immediate ⟨.two, .sign⟩ 0 := by
  obtain ⟨-, -, -, hsign, -, himmediate⟩ := widen_twosComplement 0xABCD0020 6
  have hwidth : 0 < 6 := by decide
  refine ⟨hwidth, (hsign hwidth _).2 ⟨by decide, by decide, by decide⟩, fun h => ?_⟩
  have heq := (himmediate ⟨.two, .sign⟩).2 0x20 0 (by decide) (by decide) h
  exact absurd heq (by decide)

/-! ## Widening again -/

section
variable (p q : Extension) (v a b : UInt64)

/-- Bits above a narrower field do not matter, whatever filled them. -/
theorem widen_widen_of_le {wide narrow : Nat} (h : narrow ≤ wide) :
    p.widen (q.widen v wide) narrow = p.widen v narrow := by
  have hmin : min narrow 64 ≤ min wide 64 := Nat.le_min.2
    ⟨Nat.le_trans (Nat.min_le_left narrow 64) h, Nat.min_le_right narrow 64⟩
  exact widen_eq_widen_iff.2 ((widen_modEq q v wide).of_dvd (Nat.pow_dvd_pow 2 hmin))

/-- Widening in the same way twice is widening to the narrower width. -/
theorem widen_widen_self (w₁ w₂ : Nat) : p.widen (p.widen v w₁) w₂ = p.widen v (min w₁ w₂) := by
  rcases Nat.le_total w₁ w₂ with h | h
  · rw [Nat.min_eq_left h]
    exact widen_of_fits ((fits_widen p v w₁).mono h)
  · rw [Nat.min_eq_right h]
    exact widen_widen_of_le p p v h

/-- The lowest bits of a sum of words are those of the sum of the numbers. -/
theorem toNat_add_modEq (width : Nat) :
    (a + b).toNat ≡ a.toNat + b.toNat [MOD 2 ^ min width 64] := by
  rw [UInt64.toNat_add]
  exact (Nat.mod_modEq _ _).of_dvd (Nat.pow_dvd_pow 2 (Nat.min_le_right width 64))

theorem widen_add (width : Nat) :
    p.widen (a + b) width = p.widen (p.widen a width + p.widen b width) width := by
  have hparts := (widen_modEq p a width).add (widen_modEq p b width)
  have hsum := toNat_add_modEq (p.widen a width) (p.widen b width) width
  exact widen_eq_widen_iff.2 ((toNat_add_modEq a b width).trans (hsum.trans hparts).symm)

end

/-- **Widening again.** A field of a widened word that is not wider is widened as a field of the word
    itself, whatever the first widening was. Widening in the same way to two widths is widening to the
    smaller one, so that doing it twice changes nothing. A sum that wraps around may be widened before
    and after. Beyond that, widening tells apart all words that differ in their lowest bits. -/
theorem widen_again (p : Extension) :
    (∀ (q : Extension) (v : UInt64) (w₁ w₂ : Nat), w₂ ≤ w₁ →
      p.widen (q.widen v w₁) w₂ = p.widen v w₂) ∧
    (∀ (v : UInt64) (w₁ w₂ : Nat), p.widen (p.widen v w₁) w₂ = p.widen v (min w₁ w₂)) ∧
    (∀ (v : UInt64) (w : Nat), p.widen (p.widen v w) w = p.widen v w) ∧
    (∀ (a b : UInt64) (w : Nat), p.widen (a + b) w = p.widen (p.widen a w + p.widen b w) w) ∧
    ∀ (a b : UInt64) (w : Nat),
      p.widen a w = p.widen b w ↔ a.toNat ≡ b.toNat [MOD 2 ^ min w 64] := by
  refine ⟨fun q v w₁ w₂ h => widen_widen_of_le p q v h, widen_widen_self p, fun v w => ?_,
    widen_add p, fun a b w => widen_eq_widen_iff⟩
  rw [widen_widen_self, Nat.min_self]

/-- The first widening sets all bits above the sixteenth, and the sum wraps around. -/
theorem widen_again_wraps :
    6 ≤ 16 ∧ zero.widen (sign.widen 0x8021 16) 6 = zero.widen 0x8021 6 ∧
      sign.widen (sign.widen 0x8021 16) 40 = sign.widen 0x8021 16 ∧
      sign.widen (0xFFFFFFFFFFFFFFFF + 0x20) 6 =
        sign.widen (0xFFFFFFFFFFFFFFFF + 0xFFFFFFFFFFFFFFE0) 6 := by
  have hwidth : 6 ≤ 16 := by decide
  obtain ⟨hnarrow, -⟩ := widen_again zero
  obtain ⟨-, hself, -, hsum, -⟩ := widen_again sign
  exact ⟨hwidth, hnarrow sign 0x8021 16 6 hwidth, hself 0x8021 16 40,
    hsum 0xFFFFFFFFFFFFFFFF 0x20 6⟩

end Extension

end IsaTable
