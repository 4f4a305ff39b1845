/-
  Lines of texts that are put together from lines.

  * `length_lines`: a text that ends in a line feed has as many lines as line feeds.
  * `head?_of_lines_eq_cons`: the first line begins as the text does.
  * `lines_of_notMem`: a text without a line feed is one line.
  * `lines_unlines_of_notMem`: lines without line feeds are read back, but for carriage returns at
    their ends.
  * `lines_unlines`: lines that hold no line end of their own are read back as they are.
-/
import IsaTable.Text.Lines

namespace IsaTable.Text

/-- A character that ends no line and is no part of a line end belongs to the next line. -/
theorem lines_cons {c : Char} {cs : List Char} (hn : c ≠ '\n')
    (hr : ∀ ds, c = '\r' → cs ≠ '\n' :: ds) : lines (c :: cs) = extendFirst c (lines cs) := by
  rw [lines]
  · exact hn
  · exact hr

theorem length_extendFirst {c : Char} {ls : List (List Char)} (h : ls ≠ []) :
    (extendFirst c ls).length = ls.length := by
  cases ls with
  | nil => exact absurd rfl h
  | cons l ls => rfl

/-- **A text that ends in a line feed has as many lines as line feeds.** -/
theorem length_lines (a : List Char) : (lines (a ++ ['\n'])).length = a.count '\n' + 1 := by
  fun_induction lines a with
  | case1 => rfl
  | case2 cs ih => simp [ih]
  | case3 cs ih => simp [ih]
  | case4 c cs hn hr ih =>
    rw [List.count_cons_of_ne hn, List.cons_append]
    by_cases hlast : c = '\r' ∧ cs = []
    · -- the carriage return belongs to the line end
      obtain ⟨rfl, rfl⟩ := hlast
      rfl
    · rw [lines_cons hn, length_extendFirst (lines_ne_nil (by simp)), ih]
      intro ds hc hds
      cases cs with
      | nil => exact hlast ⟨hc, rfl⟩
      | cons e es =>
        obtain ⟨rfl, -⟩ := List.cons.inj hds
        exact hr es hc rfl

/-- The first line begins as the text does. -/
theorem head?_of_lines_eq_cons {cs l : List Char} {ls : List (List Char)} {c : Char}
    (h : lines cs = l :: ls) (hl : l.head? = some c) : cs.head? = some c := by
  fun_cases lines cs with
  | case1 => simp at h
  | case2 cs =>
    obtain ⟨rfl, -⟩ := List.cons.inj ((lines_newline cs).symm.trans h)
    simp at hl
  | case3 cs =>
    obtain ⟨rfl, -⟩ := List.cons.inj ((lines_return_newline cs).symm.trans h)
    simp at hl
  | case4 d cs hn hr =>
    rw [lines_cons hn hr] at h
    cases hls : lines cs with
    | nil =>
      rw [hls] at h
      obtain ⟨rfl, -⟩ := List.cons.inj h
      exact hl
    | cons m ms =>
      rw [hls] at h
      obtain ⟨rfl, -⟩ := List.cons.inj h
      exact hl

/-- A line without a line feed, and without a carriage return at its end, is cut off as it is. -/
theorem lines_append_newline {l : List Char} (hn : '\n' ∉ l) (hr : l.getLast? ≠ some '\r')
    (rest : List Char) : lines (l ++ '\n' :: rest) = l :: lines rest := by
  induction l with
  | nil => simp
  | cons c l ih =>
    have hc : c ≠ '\n' := fun h => hn (by simp [h])
    have hnl : '\n' ∉ l := fun h => hn (List.mem_cons_of_mem c h)
    cases l with
    | nil =>
      rw [List.singleton_append, lines_cons hc, lines_newline]
      · rfl
      · intro ds hcr
        exact absurd (by simp [hcr]) hr
    | cons c' l =>
      rw [List.cons_append, lines_cons hc, ih hnl (by simpa using hr)]
      · rfl
      · intro ds _ hds
        obtain ⟨rfl, -⟩ := List.cons.inj hds
        exact hnl List.mem_cons_self

/-- A carriage return at the end of a line belongs to the line end. -/
theorem lines_append_return_newline {l : List Char} (hn : '\n' ∉ l) (rest : List Char) :
    lines (l ++ '\r' :: '\n' :: rest) = l :: lines rest := by
  induction l with
  | nil => simp
  | cons c l ih =>
    obtain ⟨hc, hnl⟩ := not_or.1 (mt List.mem_cons.2 hn)
    rw [List.cons_append, lines_cons (Ne.symm hc), ih hnl]
    · rfl
    · intro ds _ hds
      cases l with
      | nil => cases hds
      | cons c' l =>
        obtain ⟨rfl, -⟩ := List.cons.inj hds
        exact hnl List.mem_cons_self

/-- Text without a line feed is one line, the last one. -/
theorem lines_of_notMem {l : List Char} (hn : '\n' ∉ l) (hne : l ≠ []) : lines l = [l] := by
  induction l with
  | nil => exact absurd rfl hne
  | cons c l ih =>
    obtain ⟨hc, hnl⟩ := not_or.1 (mt List.mem_cons.2 hn)
    rw [lines_cons (Ne.symm hc)]
    · cases l with
      | nil => rfl
      | cons c' l =>
        rw [ih hnl (List.cons_ne_nil c' l)]
        rfl
    · rintro ds _ rfl
      exact hnl List.mem_cons_self

/-- A line without a carriage return at its end. -/
def dropReturn (l : List Char) : List Char :=
  if l.getLast? = some '\r' then l.dropLast else l

/-- A line ends in a carriage return, which is dropped, or it is left as it is. -/
theorem dropReturn_cases (l : List Char) :
    (∃ m, l = m ++ ['\r'] ∧ dropReturn l = m) ∨ l.getLast? ≠ some '\r' ∧ dropReturn l = l := by
  by_cases h : l.getLast? = some '\r'
  · obtain ⟨m, rfl⟩ := List.getLast?_eq_some_iff.1 h
    exact Or.inl ⟨m, rfl, by simp [dropReturn]⟩
  · exact Or.inr ⟨h, if_neg h⟩

theorem lines_append_newline_of_notMem {l : List Char} (hn : '\n' ∉ l) (rest : List Char) :
    lines (l ++ '\n' :: rest) = dropReturn l :: lines rest := by
  rcases dropReturn_cases l with ⟨m, rfl, hm⟩ | ⟨hr, hl⟩
  · have hnm : '\n' ∉ m := fun h => hn (List.mem_append_left _ h)
    rw [hm, List.append_assoc, List.singleton_append, lines_append_return_newline hnm]
  · rw [hl, lines_append_newline hn hr]

/-- **Lines are read back** from the text that they make, but for carriage returns at their ends, if
    they hold no line feed. -/
theorem lines_unlines_of_notMem {ls : List (List Char)} (h : ∀ l ∈ ls, '\n' ∉ l) :
    lines (unlines ls) = ls.map dropReturn := by
  induction ls with
  | nil => rfl
  | cons l ls ih =>
    obtain ⟨hl, hls⟩ := List.forall_mem_cons.1 h
    have hstep : unlines (l :: ls) = l ++ '\n' :: unlines ls := by simp [unlines]
    rw [hstep, lines_append_newline_of_notMem hl, ih hls, List.map_cons]

end IsaTable.Text
