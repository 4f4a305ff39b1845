/-
  Lines that are passed over.

  A comment or a blank line may be put between any two lines of a specification. The rows stay as they
  are, and so does all that is made of them, but for the numbers of the lines behind it.

  * `shiftBehind`: line numbers once a line is put in.
  * `specLines_insert`, `Dialect.dataLines_insert`, `Dialect.load_insert`: the lines, the rows and the
    records of the longer text.
  * `Table.ofSource_of_renumbered`: other line numbers in the records are other line numbers in the table
    and in the errors.
  * `Table.ofSource_insert`: what becomes of the longer text.
-/
import IsaTable.Proofs.Labels
import IsaTable.Proofs.Outcome
import IsaTable.Proofs.Written

namespace IsaTable

/-- The number of a line once another line is put in behind line `n`. -/
def shiftBehind (n line : Nat) : Nat :=
  if line ≤ n then line else line + 1

/-- Items that are counted from another number on. -/
theorem map_zipIdx_renumber {α : Type} {f : Nat → Nat} {xs : List α} {n m : Nat}
    (h : ∀ i < xs.length, f (n + i) = m + i) :
    (xs.zipIdx n).map (Prod.map id f) = xs.zipIdx m := by
  apply List.ext_getElem?
  intro i
  rw [List.getElem?_map, List.getElem?_zipIdx, List.getElem?_zipIdx]
  by_cases hi : i < xs.length
  · simp [hi, h i hi]
  · simp [hi]

/-! ## Lines and rows -/

section
variable {d : Dialect} {a b : String} (ha : EndsLine a) (line : SkippedLine d)
  (hmark : a = "" → line.text.head? ≠ some byteOrderMark ∧ b.toList.head? ≠ some byteOrderMark)
include ha hmark

/-- The lines of the longer text. -/
theorem specLines_insert :
    specLines (a ++ String.ofList line.text ++ "\n" ++ b) =
      specLines a ++ Text.dropReturn line.text :: Text.lines b.toList := by
  have hbehind : (String.ofList line.text ++ ("\n" ++ b)).toList = line.text ++ '\n' :: b.toList := by
    simp
  have hhead : a = "" → (String.ofList line.text ++ ("\n" ++ b)).toList.head? ≠ some byteOrderMark := by
    intro hempty
    rw [hbehind]
    cases htext : line.text with
    | nil => simp [byteOrderMark]
    | cons c cs => simpa [htext] using (hmark hempty).1
  rw [String.append_assoc, String.append_assoc, specLines_append_lines ha hhead, hbehind,
    Text.lines_append_newline_of_notMem line.newline_notMem]

/-- **The rows of the longer text** are those of the shorter one, the numbers of their lines shifted. -/
theorem Dialect.dataLines_insert :
    d.dataLines (a ++ String.ofList line.text ++ "\n" ++ b) =
      (d.dataLines (a ++ b)).map (Prod.map id (shiftBehind (a.toList.count '\n'))) := by
  have hlen := length_specLines ha
  have hskip : ¬ d.isData (Text.dropReturn line.text) = true := by
    rw [isData_dropReturn, line.isData_text]
    exact Bool.false_ne_true
  have hlonger : d.dataLines (a ++ String.ofList line.text ++ "\n" ++ b) =
      ((specLines a).zipIdx 1 ++ (Text.lines b.toList).zipIdx (1 + a.toList.count '\n' + 1)).filter
        fun p => d.isData p.1 := by
    rw [dataLines, specLines_insert ha line hmark, List.zipIdx_append, List.zipIdx_cons,
      List.filter_append, List.filter_cons, if_neg hskip, ← List.filter_append, hlen]
  have hbefore : ((specLines a).zipIdx 1).map (Prod.map id (shiftBehind (a.toList.count '\n'))) =
      (specLines a).zipIdx 1 :=
    map_zipIdx_renumber fun i hi => if_pos (by omega)
  have hbehind : ((Text.lines b.toList).zipIdx (1 + a.toList.count '\n')).map
      (Prod.map id (shiftBehind (a.toList.count '\n'))) =
        (Text.lines b.toList).zipIdx (1 + a.toList.count '\n' + 1) := by
    refine map_zipIdx_renumber fun i _ => ?_
    rw [shiftBehind, if_neg (by omega)]
    omega
  -- a shift of the numbers does not change which lines hold rows
  rw [hlonger, ← hbefore, ← hbehind, ← List.map_append, List.filter_map, dataLines,
    specLines_append_lines ha fun hempty => (hmark hempty).2, List.zipIdx_append, hlen]
  rfl

/-- The records of the longer text, or the error about it. -/
theorem Dialect.load_insert :
    d.load (a ++ String.ofList line.text ++ "\n" ++ b) =
      renumbered (shiftBehind (a.toList.count '\n'))
        (List.map (Record.renumber (shiftBehind (a.toList.count '\n')))) (d.load (a ++ b)) := by
  rw [load, dataLines_insert ha line hmark, mapM_readRow_renumber]
  rfl

end

/-! ## Tables -/

/-- An error about other lines. -/
def SpecError.renumber (f : Nat → Nat) : SpecError → SpecError
  | row e => row (e.renumber f)
  | build e => build (e.renumber f)

namespace Table

variable {d : Dialect} {a b : String}

/-- Other line numbers in the records are other line numbers in the table, or in the error. -/
theorem ofSource_of_renumbered {f : Nat → Nat} {source source' : String}
    (h : d.load source' = renumbered f (List.map (Record.renumber f)) (d.load source)) :
    ofSource d source' = ((ofSource d source).map (relabel id f)).mapError (SpecError.renumber f) := by
  have hrenumber : Record.renumber f = Record.relabel id f := rfl
  rw [ofSource, ofSource, h]
  cases d.load source with
  | error e => rfl
  | ok records =>
    simp only [renumbered, Except.map, Except.mapError, hrenumber, build_relabel]
    cases build records <;> rfl

/-- **A line that is passed over matters for line numbers only.** Put behind any line of a text, or in
    front of it, it leaves the records, the table with all renderings, or the error as they are. Line
    numbers up to there stay, and those behind it grow by one. A byte order mark at the start of a text has
    to stay there. -/
theorem ofSource_insert (ha : EndsLine a) (line : SkippedLine d)
    (hmark : a = "" → line.text.head? ≠ some byteOrderMark ∧ b.toList.head? ≠ some byteOrderMark) :
    let shift := shiftBehind (a.toList.count '\n')
    let longer := a ++ String.ofList line.text ++ "\n" ++ b
    d.load longer = renumbered shift (List.map (Record.renumber shift)) (d.load (a ++ b)) ∧
    match ofSource d (a ++ b), ofSource d longer with
    | .ok t, .ok t' =>
      t'.toList = t.toList.map (fun e => { e with record := e.record.renumber shift }) ∧
        ∀ f : Format, f.render t' = f.render t
    | .error e, .error e' => e' = e.renumber shift
    | _, _ => False := by
  intro shift longer
  have hload := Dialect.load_insert ha line hmark
  refine ⟨hload, ?_⟩
  rw [ofSource_of_renumbered hload]
  cases ofSource d (a ++ b) with
  | error e => rfl
  | ok t =>
    refine ⟨t.toList_relabel id shift, fun f => ?_⟩
    exact Format.render_congr (Format.pieces_relabel_id shift t f)

/-- A comment between two rows, the first one behind a byte order mark. -/
theorem ofSource_insert_comment :
    let d : Dialect := {}
    let a := "\uFEFF0,A,Z,N\n"
    let b := "1,B,O,Y,b"
    EndsLine a ∧ ∃ t t', ofSource d (a ++ b) = .ok t ∧
      ofSource d (a ++ String.ofList "  # c\r".toList ++ "\n" ++ b) = .ok t' ∧
      t.toList.map (·.record.line) = [1, 2] ∧ t'.toList.map (·.record.line) = [1, 3] ∧
      ∀ f : Format, f.render t' = f.render t := by
  intro d a b
  let comment : SkippedLine d := ⟨"  # c\r".toList, by decide, by decide⟩
  have ha : EndsLine a := by decide
  have hload : d.load "\uFEFF0,A,Z,N\n1,B,O,Y,b" =
      .ok [⟨0, "A", ⟨.zero, .zero⟩, none, 1⟩, ⟨1, "B", ⟨.one, .sign⟩, some "b", 2⟩] := by
    subst d; rfl
  have htext : "\uFEFF0,A,Z,N\n1,B,O,Y,b" = a ++ b := by decide
  rw [htext] at hload
  have hsource := ofSource_eq_ok_iff.2 ⟨_, hload, build_eq_ok_iff.2 ⟨by decide, by decide, rfl⟩⟩
  have hboth := (ofSource_insert ha comment (b := b) fun hempty => absurd hempty (by decide)).2
  rw [hsource, show a.toList.count '\n' = 1 by decide] at hboth
  rcases hlonger : ofSource d (a ++ String.ofList comment.text ++ "\n" ++ b) with e | t'
  · rw [hlonger] at hboth
    exact hboth.elim
  · rw [hlonger] at hboth
    refine ⟨ha, _, t', hsource, rfl, rfl, ?_, hboth.2⟩
    rw [hboth.1]
    rfl

end Table

end IsaTable
