/-
  Blank characters and trimming.

  * `isBlank`: the characters with the Unicode property White_Space.
  * `trimStart`, `trimEnd`, `trim`: drop blanks at one end or at both.
  * `trim_eq_nil_iff`: what is trimmed away altogether is blank throughout.
-/
namespace IsaTable.Text

/-- The characters with the Unicode property White_Space. The byte order mark, the zero-width space
    and the separators U+001C to U+001F are not among them. -/
def isBlank (c : Char) : Bool :=
  let n := c.toNat
  (0x09 ≤ n && n ≤ 0x0D) || n = 0x20 || n = 0x85 || n = 0xA0 || n = 0x1680 ||
    (0x2000 ≤ n && n ≤ 0x200A) || n = 0x2028 || n = 0x2029 || n = 0x202F || n = 0x205F ||
    n = 0x3000

/-- Drops the blanks at the start. -/
def trimStart (cs : List Char) : List Char :=
  cs.dropWhile isBlank

/-- Drops the blanks at the end. -/
def trimEnd (cs : List Char) : List Char :=
  (cs.reverse.dropWhile isBlank).reverse

/-- Drops the blanks at both ends. -/
def trim (cs : List Char) : List Char :=
  trimEnd (trimStart cs)

theorem trimStart_eq_nil_iff {cs : List Char} :
    trimStart cs = [] ↔ ∀ c ∈ cs, isBlank c = true := by
  induction cs with
  | nil => simp [trimStart]
  | cons c cs ih => by_cases h : isBlank c = true <;> simp_all [trimStart]

theorem trimEnd_eq_nil_iff {cs : List Char} :
    trimEnd cs = [] ↔ ∀ c ∈ cs, isBlank c = true := by
  rw [trimEnd, List.reverse_eq_nil_iff, ← trimStart, trimStart_eq_nil_iff]
  simp

/-- What is left after trimming the start does not begin with a blank. -/
theorem isBlank_of_trimStart_eq_cons {cs rest : List Char} {c : Char}
    (h : trimStart cs = c :: rest) : isBlank c = false := by
  have hd := List.head?_dropWhile_not isBlank cs
  rw [← trimStart, h] at hd
  exact hd

/-- **Only blank text is trimmed away altogether.** -/
theorem trim_eq_nil_iff {cs : List Char} : trim cs = [] ↔ ∀ c ∈ cs, isBlank c = true := by
  rw [← trimStart_eq_nil_iff, trim, trimEnd_eq_nil_iff]
  constructor
  · intro h
    cases hd : trimStart cs with
    | nil => rfl
    | cons c rest =>
      have hc : isBlank c = true := h c (by simp [hd])
      simp [isBlank_of_trimStart_eq_cons hd] at hc
  · intro h
    simp [h]

end IsaTable.Text
