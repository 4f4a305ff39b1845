/-
  Positional numerals.

  * `numeral`: the digits of a number in a base up to 36, without leading zeros.
  * `valueOf?`: the number that digits of either case denote.
  * `valueOf?_numeral`: written digits read back.
-/
namespace IsaTable.Text

/-- The digit of value `d < 36`, in lower case. -/
def digitChar (d : Nat) : Char :=
  if d < 10 then Char.ofNat (48 + d) else Char.ofNat (87 + d)

/-- The value of a digit in a base, in either case. -/
def digitValue? (base : Nat) (c : Char) : Option Nat :=
  let n := c.toNat
  let value :=
    if 48 ≤ n ∧ n ≤ 57 then some (n - 48)
    else if 97 ≤ n ∧ n ≤ 122 then some (n - 87)
    else if 65 ≤ n ∧ n ≤ 90 then some (n - 55)
    else none
  value.filter (· < base)

/-- Appends a digit to the number read so far. -/
def appendDigit? (base acc : Nat) (c : Char) : Option Nat :=
  (digitValue? base c).map (acc * base + ·)

/-- The number that a run of digits denotes, if all of them are digits of the base. -/
def valueOf? (base : Nat) (digits : List Char) : Option Nat :=
  digits.foldlM (appendDigit? base) 0

/-- The digits of a number, the most significant first. -/
def numeral (base n : Nat) : List Char :=
  if n < base ∨ base < 2 then [digitChar n]
  else numeral base (n / base) ++ [digitChar (n % base)]
termination_by n
decreasing_by exact Nat.div_lt_self (by omega) (by omega)

/-- A number in decimal. -/
def decimal (n : Nat) : String :=
  String.ofList (numeral 10 n)

/-- A number in hexadecimal, marked as such. -/
def hex (n : Nat) : String :=
  "0x" ++ String.ofList (numeral 16 n)

theorem digitValue?_digitChar {base d : Nat} (hd : d < base) (hb : base ≤ 36) :
    digitValue? base (digitChar d) = some d := by
  have all : ∀ d < 36, (digitChar d).toNat = if d < 10 then 48 + d else 87 + d := by decide
  have hc := all d (by omega)
  simp only [digitValue?, hc]
  split
  · simp [show 48 + d ≤ 57 by omega, hd]
  · simp [show ¬ 87 + d ≤ 57 by omega, show 97 ≤ 87 + d by omega, show 87 + d ≤ 122 by omega, hd]

/-- A numeral consists of digits of its base. -/
theorem exists_digit_of_mem_numeral {base n : Nat} (hb : 2 ≤ base) {c : Char}
    (h : c ∈ numeral base n) : ∃ d < base, c = digitChar d := by
  fun_induction numeral base n with
  | case1 n hn => exact ⟨n, by omega, by simpa using h⟩
  | case2 n hn ih =>
    rcases List.mem_append.1 h with h | h
    · exact ih h
    · exact ⟨n % base, Nat.mod_lt n (by omega), by simpa using h⟩

theorem numeral_ne_nil (base n : Nat) : numeral base n ≠ [] := by
  fun_cases numeral base n with
  | case1 => simp
  | case2 => simp

/-- **Written digits read back.** -/
theorem valueOf?_numeral {base : Nat} (hb : 2 ≤ base) (hb' : base ≤ 36) (n : Nat) :
    valueOf? base (numeral base n) = some n := by
  fun_induction numeral base n with
  | case1 n h =>
    simp [valueOf?, appendDigit?, digitValue?_digitChar (show n < base by omega) hb']
  | case2 n h ih =>
    have hm : n % base < base := Nat.mod_lt _ (by omega)
    rw [valueOf?] at ih
    simp [valueOf?, ih, appendDigit?, digitValue?_digitChar hm hb', Nat.div_add_mod']

end IsaTable.Text
