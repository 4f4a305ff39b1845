/-
  Byte order marks.

  Marks at the very start of a text are dropped. On any later line, a mark is a character like any other:
  it is no blank and begins no literal. So unless it begins a comment, a line that begins with it holds no
  row.

  * `Dialect.load_replicate_mark_append`: marks at the start of a text do not matter.
  * `Dialect.IsRow.head?_trim`: a row begins with its literal.
  * `Dialect.load_marks`: marks at the start of a text, and marks on later lines.
-/
import IsaTable.Proofs.Alike
import IsaTable.Proofs.Literals

namespace IsaTable

/-! ## Marks at the start -/

/-- A mark belongs to the first line. -/
theorem Text.lines_mark (cs : List Char) :
    lines (byteOrderMark :: cs) = extendFirst byteOrderMark (lines cs) :=
  lines_cons (by decide) fun _ h => absurd h (by decide)

namespace Dialect

variable {d : Dialect}

/-- A mark leaves the lines of a text as they are. Before the empty text, it makes a blank line. -/
theorem sameLines_mark (cs : List Char) :
    d.SameLines (specLines (String.ofList cs)) (specLines (String.ofList (byteOrderMark :: cs))) := by
  rw [specLines, specLines, String.toList_ofList, String.toList_ofList, Text.lines_mark]
  cases Text.lines cs with
  | nil => exact .blank rfl .nil
  | cons l ls => exact .refl _

/-- **Marks at the start of a text do not matter.** -/
theorem load_replicate_mark_append (k : Nat) (cs : List Char) :
    d.load (String.ofList (List.replicate k byteOrderMark ++ cs)) = d.load (String.ofList cs) ∧
      d.commentCount (String.ofList (List.replicate k byteOrderMark ++ cs)) =
        d.commentCount (String.ofList cs) := by
  induction k with
  | zero => exact ⟨rfl, rfl⟩
  | succ k ih =>
    obtain ⟨hload, hcount⟩ :=
      load_congr (sameLines_mark (d := d) (List.replicate k byteOrderMark ++ cs))
    exact ⟨hload.trans ih.1, hcount.trans ih.2⟩

end Dialect

/-! ## Marks on later lines -/

/-- A list begins with the first of its parts. -/
theorem exists_append_of_splitOn {a : Char} {xs first : List Char} {parts : List (List Char)}
    (h : xs.splitOn a = first :: parts) : ∃ rest, xs = first ++ rest := by
  have hxs : [a].intercalate (xs.splitOn a) = xs := List.intercalate_splitOn a
  rw [h] at hxs
  cases parts with
  | nil => exact ⟨[], by simpa using hxs.symm⟩
  | cons second parts =>
    rw [List.intercalate_cons_cons, List.append_assoc] at hxs
    exact ⟨_, hxs.symm⟩

namespace Dialect

variable {d : Dialect}

/-- **A row begins with its literal:** the first character that is no blank is an ASCII letter or digit. -/
theorem IsRow.head?_trim {line : Nat} {text : List Char} {r : Record} (h : d.IsRow line text r) :
    ∃ c, (Text.trim text).head? = some c ∧ c.isAlphanum = true := by
  obtain ⟨-, columns, hfields, hcolumns, -⟩ := h
  obtain ⟨first, parts, hsplit⟩ := List.exists_cons_of_ne_nil (List.splitOn_ne_nil d.delimiter text)
  obtain ⟨rest, htext⟩ := exists_append_of_splitOn hsplit
  have hliteral : Text.trim first = columns.opcode.toList := by
    rw [fields, hsplit] at hfields
    rw [← (List.cons.inj hfields).1, String.toList_ofList]
  obtain ⟨c, cs, hopcode⟩ :=
    List.exists_cons_of_ne_nil (Opcode.isBlank_of_ofLiteral? hcolumns.opcode).1
  have hfirst : first.find? (fun c => !Text.isBlank c) = some c := by
    rw [← Text.head?_trim_eq_find?, hliteral, hopcode]
    rfl
  refine ⟨c, ?_, ?_⟩
  · rw [Text.head?_trim_eq_find?, htext, List.find?_append, hfirst]
    rfl
  · refine (Opcode.ofLiteral?_eq_some_iff.1 hcolumns.opcode).isAlphanum ?_
    rw [hopcode]
    exact List.mem_cons_self

/-- A line that begins with a mark holds no row. -/
theorem not_isRow_of_mark {line : Nat} {text : List Char} {r : Record}
    (h : (Text.trim text).head? = some byteOrderMark) : ¬ d.IsRow line text r := by
  intro hrow
  obtain ⟨c, hc, halnum⟩ := hrow.head?_trim
  obtain rfl := Option.some.inj (h.symm.trans hc)
  exact absurd halnum (by decide)

/-- What holds no row is faulty. -/
theorem exists_faulty_of_not_isRow {line : Nat} {text : List Char}
    (h : ∀ r, ¬ d.IsRow line text r) : ∃ fault, d.Faulty text fault := by
  cases hread : d.readRow line text with
  | ok r => exact absurd (readRow_eq_ok_iff.1 hread) (h r)
  | error e => exact ⟨e.fault, (readRow_eq_error_iff.1 hread).2⟩

/-- **Byte order marks** at the start of a text do not matter, however many there are, and whatever else
    a mark means in the dialect. On any later line that begins with a mark, loading stops at the latest,
    unless a mark begins comments. -/
theorem load_marks (d : Dialect) :
    (∀ (k : Nat) (source : String),
      d.load (String.ofList (List.replicate k byteOrderMark) ++ source) = d.load source ∧
        d.commentCount (String.ofList (List.replicate k byteOrderMark) ++ source) =
          d.commentCount source) ∧
    (d.comment ≠ byteOrderMark → ∀ (source : String) (n : Nat) (text : List Char), 1 < n →
      (Text.lines source.toList)[n - 1]? = some text →
      (Text.trim text).head? = some byteOrderMark →
      (∀ m < n, ∀ other, d.DataLine source m other → ∃ r, d.IsRow m other r) →
      ∃ fault, d.load source = .error ⟨n, fault⟩ ∧ d.Faulty text fault) := by
  constructor
  · intro k source
    have htext : String.ofList (List.replicate k byteOrderMark) ++ source =
        String.ofList (List.replicate k byteOrderMark ++ source.toList) := by
      apply String.toList_inj.1
      simp
    have hmarks := load_replicate_mark_append (d := d) k source.toList
    rwa [← htext, String.ofList_toList] at hmarks
  · intro hcomment source n text hn hline hmark hrows
    have hdata : d.DataLine source (n - 1 + 1) text :=
      dataLine_of_head? hline (by rw [if_neg (by omega)]) hmark hcomment.symm
    rw [Nat.sub_add_cancel (by omega)] at hdata
    have hnone : ∀ r, ¬ d.IsRow n text r := fun r => not_isRow_of_mark hmark
    obtain ⟨fault, hfault⟩ := exists_faulty_of_not_isRow hnone
    exact ⟨fault, load_eq_error_iff.2 ⟨text, hdata, hfault, hrows⟩, hfault⟩

/-- Two marks before a line end are dropped; one behind a blank on the fourth line is not. -/
theorem load_marks_later :
    let d : Dialect := {}
    let source := "\r\n# c\n0,NOP,Z,N\n \uFEFF1,HALT,Z,N\n"
    d.comment ≠ byteOrderMark ∧ ∃ fault,
      d.load (String.ofList (List.replicate 2 byteOrderMark) ++ source) = .error ⟨4, fault⟩ := by
  intro d source
  have hcomment : d.comment ≠ byteOrderMark := by decide
  have hlines : Text.lines source.toList =
      ["".toList, "# c".toList, "0,NOP,Z,N".toList, " \uFEFF1,HALT,Z,N".toList] := by
    subst source
    rfl
  have hdata : d.dataLines source =
      [("0,NOP,Z,N".toList, 3), (" \uFEFF1,HALT,Z,N".toList, 4)] := by
    rw [dataLines, specLines, hlines]
    rfl
  have hrows : ∀ m < 4, ∀ other, d.DataLine source m other → ∃ r, d.IsRow m other r := by
    intro m hm other hother
    rw [← mem_dataLines_iff, hdata, List.mem_pair] at hother
    rcases hother with hother | hother
    · cases hother
      exact ⟨⟨0, "NOP", ⟨.zero, .zero⟩, none, 3⟩, readRow_eq_ok_iff.1 rfl⟩
    · cases hother
      exact absurd hm (by decide)
  obtain ⟨hstart, hlater⟩ := load_marks d
  obtain ⟨fault, hload, -⟩ := hlater hcomment source 4 " \uFEFF1,HALT,Z,N".toList (by decide)
    (by rw [hlines]; rfl) (by decide) hrows
  exact ⟨hcomment, fault, (hstart 2 source).1.trans hload⟩

end Dialect

end IsaTable
