/-
  Text for a terminal.

  A terminal acts on some control characters instead of showing them. In text that may come from
  anywhere these are written as escapes, so that a log line cannot move the cursor, ring the bell
  or start a command of the terminal.

  * `isSteering`: the characters that are written as escapes.
  * `terminalSafe`: a text without them.
  * `not_steering_of_mem_terminalSafe`, `terminalSafe_of_not_steering`: none of them is left, and a
    text that has none is shown unchanged.
-/
import IsaTable.Text.Quoted

namespace IsaTable.Text

/-- The ASCII control characters that a terminal acts on: bell, backspace, form feed, escape and
    delete. -/
def isAsciiSteering (c : Char) : Bool :=
  [0x07, 0x08, 0x0C, 0x1B, 0x7F].contains c.toNat

/-- The control characters above ASCII, each of which starts or ends a command of the terminal. -/
def isHighControl (c : Char) : Bool :=
  0x80 ≤ c.toNat && c.toNat ≤ 0x9F

/-- The characters that a terminal acts on. -/
def isSteering (c : Char) : Bool :=
  isAsciiSteering c || isHighControl c

/-- An ASCII character written by its code in two digits. -/
def escapeByte (c : Char) : List Char :=
  ['\\', 'x', digitChar (c.toNat / 16), digitChar (c.toNat % 16)]

/-- A character for a terminal. -/
def terminalEscape (c : Char) : List Char :=
  if isAsciiSteering c then escapeByte c
  else if isHighControl c then escapeCode c
  else [c]

/-- A text for a terminal. Backslashes stay as they are, so that a text without control characters
    is shown unchanged. -/
def terminalSafe (text : String) : String :=
  String.ofList (text.toList.flatMap terminalEscape)

/-! ## What is shown -/

theorem isSteering_digitChar {d : Nat} (hd : d < 16) : isSteering (digitChar d) = false := by
  have all : ∀ d < 16, isSteering (digitChar d) = false := by decide
  exact all d hd

theorem not_steering_of_mem_escapeCode {c d : Char} (h : d ∈ escapeCode c) :
    isSteering d = false := by
  simp only [escapeCode, List.mem_cons, List.mem_append, List.not_mem_nil, or_false] at h
  rcases h with rfl | rfl | rfl | h | rfl
  · decide
  · decide
  · decide
  · obtain ⟨n, hn, rfl⟩ := exists_digit_of_mem_numeral (by decide) h
    exact isSteering_digitChar hn
  · decide

theorem not_steering_of_mem_escapeByte {c d : Char} (hc : isAsciiSteering c)
    (h : d ∈ escapeByte c) : isSteering d = false := by
  have hlt : c.toNat < 128 := by
    simp only [isAsciiSteering, List.contains_eq_mem, List.mem_cons, List.not_mem_nil, or_false,
      decide_eq_true_eq] at hc
    omega
  simp only [escapeByte, List.mem_cons, List.not_mem_nil, or_false] at h
  rcases h with rfl | rfl | rfl | rfl
  · decide
  · decide
  · exact isSteering_digitChar (by omega)
  · exact isSteering_digitChar (by omega)

/-- No character that a terminal acts on is left. -/
theorem not_steering_of_mem_terminalSafe {text : String} {d : Char}
    (h : d ∈ (terminalSafe text).toList) : isSteering d = false := by
  rw [terminalSafe, String.toList_ofList] at h
  obtain ⟨c, -, hd⟩ := List.mem_flatMap.1 h
  unfold terminalEscape at hd
  split at hd
  · next hc => exact not_steering_of_mem_escapeByte hc hd
  · split at hd
    · exact not_steering_of_mem_escapeCode hd
    · next hascii hhigh =>
      obtain rfl : d = c := by simpa using hd
      simp [isSteering, hascii, hhigh]

theorem terminalEscape_of_not_steering {c : Char} (h : isSteering c = false) :
    terminalEscape c = [c] := by
  have hc : isAsciiSteering c = false ∧ isHighControl c = false := by
    simpa [isSteering] using h
  simp [terminalEscape, hc.1, hc.2]

/-- A text without control characters that a terminal acts on is shown unchanged. -/
theorem terminalSafe_of_not_steering {text : String}
    (h : ∀ c ∈ text.toList, isSteering c = false) : terminalSafe text = text := by
  have hl : ∀ cs : List Char, (∀ c ∈ cs, isSteering c = false) →
      cs.flatMap terminalEscape = cs := by
    intro cs hcs
    induction cs with
    | nil => rfl
    | cons c cs ih =>
      obtain ⟨hc, hrest⟩ := List.forall_mem_cons.1 hcs
      rw [List.flatMap_cons, terminalEscape_of_not_steering hc, ih hrest, List.singleton_append]
  rw [terminalSafe, hl text.toList h, String.ofList_toList]

end IsaTable.Text
