/-
  Lines of a text.

  A line ends at a line feed; one carriage return directly before it belongs to the line end. Text
  after the last line feed is a line of its own unless it is empty.

  * `lines`: the lines without their ends.
  * `lines_append`: a text that ends in a line feed splits from what follows it.
  * `lineParts`, `unlines`: a text cut at its line feeds alone, and one put together from lines.
  * `intercalate_lineParts`: cutting at line feeds loses nothing else.
-/
namespace IsaTable.Text

/-- Puts a character in front of the first line, which it begins if there is none. -/
def extendFirst (c : Char) : List (List Char) → List (List Char)
  | [] => [[c]]
  | l :: ls => (c :: l) :: ls

/-- The lines of a text, without their ends. -/
def lines : List Char → List (List Char)
  | [] => []
  | '\n' :: cs => [] :: lines cs
  | '\r' :: '\n' :: cs => [] :: lines cs
  | c :: cs => extendFirst c (lines cs)

@[simp] theorem lines_nil : lines [] = [] := rfl

@[simp] theorem lines_newline (cs : List Char) : lines ('\n' :: cs) = [] :: lines cs := by
  simp [lines]

@[simp] theorem lines_return_newline (cs : List Char) :
    lines ('\r' :: '\n' :: cs) = [] :: lines cs := by
  simp [lines]

theorem extendFirst_append {c : Char} {ls ms : List (List Char)} (h : ls ≠ []) :
    extendFirst c (ls ++ ms) = extendFirst c ls ++ ms := by
  cases ls with
  | nil => exact absurd rfl h
  | cons l ls => rfl

theorem lines_ne_nil {cs : List Char} (h : cs ≠ []) : lines cs ≠ [] := by
  fun_cases lines cs with
  | case1 => exact absurd rfl h
  | case2 => simp
  | case3 => simp
  | case4 c cs => cases hl : lines cs <;> simp [extendFirst]

/-- **A line feed separates.** The lines before it do not depend on the text behind it. -/
theorem lines_append (a b : List Char) :
    lines (a ++ '\n' :: b) = lines (a ++ ['\n']) ++ lines b := by
  fun_induction lines a with
  | case1 => simp
  | case2 cs ih => simp [ih]
  | case3 cs ih => simp [ih]
  | case4 c cs hn hr ih =>
    have step (d : List Char) : lines (c :: (cs ++ '\n' :: d)) =
        if c = '\r' ∧ cs = [] then [] :: lines d else extendFirst c (lines (cs ++ '\n' :: d)) := by
      split
      · next h => simp [h.1, h.2]
      · next h =>
        rw [lines]
        · rintro rfl; exact hn rfl
        · rintro cs' rfl hc
          cases cs with
          | nil => exact h ⟨rfl, rfl⟩
          | cons d ds => cases hc; exact hr ds rfl rfl
    simp only [List.cons_append, step, ih]
    split
    · simp
    · exact extendFirst_append (lines_ne_nil (by simp))

/-! ## Line feeds alone -/

/-- The parts of a text between its line feeds. -/
def lineParts : List Char → List (List Char)
  | [] => [[]]
  | c :: cs => if c = '\n' then [] :: lineParts cs else extendFirst c (lineParts cs)

/-- The text with given lines, each ended by a line feed. -/
def unlines (ls : List (List Char)) : List Char :=
  ls.flatMap (· ++ ['\n'])

theorem lineParts_ne_nil (cs : List Char) : lineParts cs ≠ [] := by
  fun_cases lineParts cs with
  | case1 => simp
  | case2 => simp
  | case3 c cs => cases hl : lineParts cs <;> simp [extendFirst]

/-- Cutting at line feeds loses nothing but them. -/
theorem intercalate_lineParts (cs : List Char) : ['\n'].intercalate (lineParts cs) = cs := by
  induction cs with
  | nil => rfl
  | cons c cs ih =>
    obtain ⟨first, rest, hl⟩ := List.exists_cons_of_ne_nil (lineParts_ne_nil cs)
    rw [hl] at ih
    by_cases hc : c = '\n'
    · simpa [lineParts, hc, hl, List.intercalate] using ih
    · cases rest with
      | nil => simpa [lineParts, hc, hl, extendFirst, List.intercalate] using ih
      | cons second rest => simpa [lineParts, hc, hl, extendFirst, List.intercalate] using ih

theorem lineParts_of_newline_notMem {cs : List Char} (h : '\n' ∉ cs) : lineParts cs = [cs] := by
  induction cs with
  | nil => rfl
  | cons c cs ih =>
    obtain ⟨hc, hcs⟩ : c ≠ '\n' ∧ '\n' ∉ cs := by
      simpa [List.mem_cons, not_or, eq_comm] using h
    simp [lineParts, hc, ih hcs, extendFirst]

end IsaTable.Text
