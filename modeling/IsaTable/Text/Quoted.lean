/-
  Quoted strings with backslash escapes.

  A string stands between double quotes. NUL, tab, carriage return, line feed, the double quote and
  the backslash have short escapes; a character that is not plain is written by its code point in
  hexadecimal; every other character stands for itself.

  * `quote`: a quoted string, for any choice of the plain characters.
  * `unquote?`: the string that quoted text denotes.
  * `unquote?_quote`: quoting loses nothing, whichever characters are plain.
-/
import IsaTable.Text.Numeral

namespace IsaTable.Text

/-! ## Writing -/

/-- A character written by its code point. -/
def escapeCode (c : Char) : List Char :=
  '\\' :: 'u' :: '\x7b' :: (numeral 16 c.toNat ++ ['\x7d'])

/-- A character inside quotes. -/
def escape (plain : Char → Bool) (c : Char) : List Char :=
  if c = '\x00' then ['\\', '0']
  else if c = '\t' then ['\\', 't']
  else if c = '\r' then ['\\', 'r']
  else if c = '\n' then ['\\', 'n']
  else if c = '"' then ['\\', '"']
  else if c = '\\' then ['\\', '\\']
  else if plain c then [c]
  else escapeCode c

/-- A quoted string. -/
def quote (plain : Char → Bool) (text : List Char) : List Char :=
  '"' :: (text.flatMap (escape plain) ++ ['"'])

/-! ## Reading -/

/-- What the next character inside quotes belongs to. -/
inductive QuoteState where
  | plain
  /-- Behind a backslash. -/
  | escaped
  /-- Before the brace of a code point. -/
  | opening
  /-- Among the digits of a code point, with the value of those read. -/
  | code (value : Option Nat)

/-- The character that a letter behind a backslash stands for. -/
def shortEscape? (c : Char) : Option Char :=
  if c = '0' then some '\x00'
  else if c = 't' then some '\t'
  else if c = 'r' then some '\r'
  else if c = 'n' then some '\n'
  else if c = '"' then some '"'
  else if c = '\\' then some '\\'
  else none

/-- The character with a code point. -/
def charOfCode? (n : Nat) : Option Char :=
  if n.isValidChar then some (Char.ofNat n) else none

/-- The string that text behind the opening quote denotes. The closing quote ends the text. -/
def unquoteFrom : QuoteState → List Char → Option (List Char)
  | _, [] => none
  | .plain, c :: cs =>
    if c = '"' then if cs = [] then some [] else none
    else if c = '\\' then unquoteFrom .escaped cs
    else (unquoteFrom .plain cs).map (c :: ·)
  | .escaped, c :: cs =>
    match shortEscape? c with
    | some d => (unquoteFrom .plain cs).map (d :: ·)
    | none => if c = 'u' then unquoteFrom .opening cs else none
  | .opening, c :: cs => if c = '\x7b' then unquoteFrom (.code none) cs else none
  | .code value, c :: cs =>
    if c = '\x7d' then
      (value.bind charOfCode?).bind fun d => (unquoteFrom .plain cs).map (d :: ·)
    else
      (appendDigit? 16 (value.getD 0) c).bind fun value => unquoteFrom (.code (some value)) cs

/-- The string that quoted text denotes. -/
def unquote? : List Char → Option (List Char)
  | '"' :: cs => unquoteFrom .plain cs
  | _ => none

/-! ## Quoting loses nothing -/

@[simp] theorem charOfCode?_toNat (c : Char) : charOfCode? c.toNat = some c := by
  have h : c.toNat.isValidChar := c.valid
  simp [charOfCode?, h]

/-- Digits of a code point are read as the number they denote. -/
theorem unquoteFrom_code_append {digits : List Char} (rest : List Char) {value : Option Nat}
    {n : Nat} (h : digits.foldlM (appendDigit? 16) (value.getD 0) = some n)
    (hne : digits = [] → value.isSome) :
    unquoteFrom (.code value) (digits ++ '\x7d' :: rest) =
      (charOfCode? n).bind fun d => (unquoteFrom .plain rest).map (d :: ·) := by
  induction digits generalizing value with
  | nil =>
    obtain ⟨acc, rfl⟩ := Option.isSome_iff_exists.1 (hne rfl)
    obtain rfl : acc = n := by simpa using h
    simp [unquoteFrom]
  | cons c cs ih =>
    obtain ⟨next, hnext, hrest⟩ : ∃ next, appendDigit? 16 (value.getD 0) c = some next ∧
        cs.foldlM (appendDigit? 16) next = some n := by
      simpa [Option.bind_eq_some_iff] using h
    have hc : c ≠ '\x7d' := by
      rintro rfl
      simp [appendDigit?, digitValue?] at hnext
    have hcs : unquoteFrom (.code (some next)) (cs ++ '\x7d' :: rest) = _ :=
      ih (by simpa using hrest) (by simp)
    simp [unquoteFrom, hc, hnext, hcs]

theorem unquoteFrom_escapeCode (c : Char) (rest : List Char) :
    unquoteFrom .plain (escapeCode c ++ rest) = (unquoteFrom .plain rest).map (c :: ·) := by
  have hv := valueOf?_numeral (show 2 ≤ 16 by decide) (by decide) c.toNat
  have hd : unquoteFrom (.code none) (numeral 16 c.toNat ++ '\x7d' :: rest) = _ :=
    unquoteFrom_code_append rest hv fun h => absurd h (numeral_ne_nil 16 c.toNat)
  simp [escapeCode, unquoteFrom, shortEscape?, hd]

/-- What is written for a character is read as that character. -/
theorem unquoteFrom_escape (plain : Char → Bool) (c : Char) (rest : List Char) :
    unquoteFrom .plain (escape plain c ++ rest) = (unquoteFrom .plain rest).map (c :: ·) := by
  fun_cases escape plain c with
  | case1 | case2 | case3 | case4 | case5 | case6 => simp_all [unquoteFrom, shortEscape?]
  | case7 => simp_all [unquoteFrom]
  | case8 => exact unquoteFrom_escapeCode c rest

/-- **Quoting loses nothing,** whichever characters are plain. -/
theorem unquote?_quote (plain : Char → Bool) (text : List Char) :
    unquote? (quote plain text) = some text := by
  rw [quote, unquote?]
  induction text with
  | nil => simp [unquoteFrom]
  | cons c cs ih => simp [List.append_assoc, unquoteFrom_escape, ih]

end IsaTable.Text
