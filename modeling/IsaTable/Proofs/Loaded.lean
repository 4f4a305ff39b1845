/-
  What loading guarantees.

  Each line of a text holds a row, holds a comment or is blank. Where loading succeeds, the records are
  those of the rows, and whatever the delimiter and the comment character are, no record holds more than
  the trimmed fields of its line.

  * `Text.newline_notMem_of_mem_lines`: no line holds a line feed.
  * `Text.trim_trim`, `Dialect.of_mem_fields`: fields are trimmed, and no delimiter occurs in them.
  * `Record.Clean`, `Dialect.IsRow.clean`: what is true of the record of a row.
  * `Dialect.countP_isData_add`: there are three kinds of lines.
  * `Dialect.load_invariants`: what is true of all that is loaded.
-/
import IsaTable.Proofs.Rows
import IsaTable.Proofs.Trimming
import Mathlib.Data.List.DropRight

namespace IsaTable

namespace Text

/-- No line holds a line feed. -/
theorem newline_notMem_of_mem_lines {cs : List Char} : ∀ l ∈ lines cs, '\n' ∉ l := by
  fun_induction lines cs with
  | case1 => simp
  | case2 cs ih => exact List.forall_mem_cons.2 ⟨List.not_mem_nil, ih⟩
  | case3 cs ih => exact List.forall_mem_cons.2 ⟨List.not_mem_nil, ih⟩
  | case4 c cs hn _ ih =>
    have hc : '\n' ≠ c := fun h => hn h.symm
    cases hls : lines cs with
    | nil => simpa [extendFirst] using hc
    | cons l ls =>
      rw [hls] at ih
      obtain ⟨hl, hrest⟩ := List.forall_mem_cons.1 ih
      refine List.forall_mem_cons.2 ⟨?_, hrest⟩
      simpa using ⟨hc, hl⟩

theorem mem_of_mem_trim {cs : List Char} {c : Char} (h : c ∈ trim cs) : c ∈ cs := by
  have hstart : c ∈ (trimStart cs).reverse :=
    (List.dropWhile_sublist isBlank).subset (List.mem_reverse.1 h)
  exact (List.dropWhile_sublist isBlank).subset (List.mem_reverse.1 hstart)

theorem trimEnd_trimEnd (cs : List Char) : trimEnd (trimEnd cs) = trimEnd cs :=
  List.rdropWhile_idempotent isBlank cs

/-- Trimmed text is left as it is. -/
theorem trim_trim (cs : List Char) : trim (trim cs) = trim cs := by
  have htrim : trim cs = trimEnd (trimStart cs) := rfl
  rw [htrim]
  cases hstart : trimStart cs with
  | nil => rfl
  | cons c rest =>
    have hc := isBlank_of_trimStart_eq_cons hstart
    rw [trimEnd_cons hc, trim_cons hc, trimEnd_trimEnd]

end Text

/-! ## Records -/

/-- The parts of a list between separators hold no separator, and nothing that is not in the list. -/
theorem of_mem_splitOn {α : Type} [BEq α] [LawfulBEq α] {a : α} {xs : List α} :
    ∀ part ∈ xs.splitOn a, a ∉ part ∧ ∀ x ∈ part, x ∈ xs := by
  induction xs with
  | nil => simp
  | cons x xs ih =>
    rw [List.splitOn_cons_eq_if_modifyHead]
    split
    · refine List.forall_mem_cons.2 ⟨by simp, fun part hpart => ?_⟩
      obtain ⟨ha, hsub⟩ := ih part hpart
      exact ⟨ha, fun y hy => List.mem_cons_of_mem x (hsub y hy)⟩
    · next hx =>
      have hne : a ≠ x := fun h => hx (by simp [h])
      cases hparts : xs.splitOn a with
      | nil => simp
      | cons first parts =>
        rw [hparts] at ih
        obtain ⟨⟨ha, hsub⟩, hrest⟩ := List.forall_mem_cons.1 ih
        refine List.forall_mem_cons.2 ⟨⟨by simp [hne, ha], ?_⟩, fun part hpart => ?_⟩
        · exact List.forall_mem_cons.2 ⟨List.mem_cons_self, fun y hy => List.mem_cons_of_mem x (hsub y hy)⟩
        · obtain ⟨ha', hsub'⟩ := hrest part hpart
          exact ⟨ha', fun y hy => List.mem_cons_of_mem x (hsub' y hy)⟩

/-- A record as loading leaves it: a name and perhaps a note that fit between two delimiters of a line,
    with no blanks around them. -/
structure Record.Clean (d : Dialect) (r : Record) : Prop where
  isName : isName r.name = true
  delimiter_notMem_name : d.delimiter ∉ r.name.toList
  note_ne_empty : r.note ≠ some ""
  trim_note : ∀ note ∈ r.note, Text.trim note.toList = note.toList
  delimiter_notMem_note : ∀ note ∈ r.note, d.delimiter ∉ note.toList
  newline_notMem_note : ∀ note ∈ r.note, '\n' ∉ note.toList
  note_of_compact : d.layout = .compact → r.note = none

namespace Dialect

variable {d : Dialect} {source : String} {records : List Record}

/-- **The fields of a row** are trimmed, hold no delimiter, and nothing that is not in the row. -/
theorem of_mem_fields {text : List Char} {field : String} (h : field ∈ d.fields text) :
    Text.trim field.toList = field.toList ∧ d.delimiter ∉ field.toList ∧
      ∀ c ∈ field.toList, c ∈ text := by
  obtain ⟨part, hpart, rfl⟩ := List.mem_map.1 h
  obtain ⟨hdelimiter, hsub⟩ := of_mem_splitOn part hpart
  rw [String.toList_ofList]
  exact ⟨Text.trim_trim part, fun hmem => hdelimiter (Text.mem_of_mem_trim hmem),
    fun c hc => hsub c (Text.mem_of_mem_trim hc)⟩

/-- The record of a row has a name, and a note that is not empty or none. -/
theorem IsRow.clean {line : Nat} {text : List Char} {r : Record} (h : d.IsRow line text r)
    (hn : '\n' ∉ text) : r.Clean d := by
  obtain ⟨hadmits, c, hfields, hc, -⟩ := h
  have hname : r.name ∈ d.fields text := by
    rw [hfields, ← hc.name]
    simp [Columns.fields]
  have hnote : ∀ note ∈ r.note, note ∈ d.fields text ∧ note ≠ "" := by
    intro note hmem
    rw [hc.note] at hmem
    obtain ⟨hmem, hne⟩ := Option.filter_eq_some_iff.1 hmem
    rw [hfields]
    exact ⟨by simp [Columns.fields, hmem], of_decide_eq_true hne⟩
  refine ⟨hc.isName, (of_mem_fields hname).2.1, fun hempty => (hnote "" hempty).2 rfl, ?_, ?_, ?_, ?_⟩
  · exact fun note hmem => (of_mem_fields (hnote note hmem).1).1
  · exact fun note hmem => (of_mem_fields (hnote note hmem).1).2.1
  · exact fun note hmem hnl => hn ((of_mem_fields (hnote note hmem).1).2.2 _ hnl)
  · intro hcompact
    -- four fields leave none for a note
    rw [hfields, hcompact] at hadmits
    rw [hc.note]
    cases hcn : c.note with
    | none => rfl
    | some note => simp [Layout.Admits, Columns.fields, hcn] at hadmits

/-! ## Kinds of lines -/

/-- **There are three kinds of lines,** and none is of two kinds. -/
theorem countP_isData_add (d : Dialect) (ls : List (List Char)) :
    ls.countP d.isData + ls.countP d.isComment + ls.countP isBlankLine = ls.length := by
  induction ls with
  | nil => rfl
  | cons l ls ih =>
    have hone : (if d.isData l then 1 else 0) + (if d.isComment l then 1 else 0) +
        (if isBlankLine l then 1 else 0) = 1 := by
      by_cases hblank : isBlankLine l = true
      · simp [isData, hblank, isComment_of_isBlankLine hblank]
      · by_cases hcomment : d.isComment l = true <;> simp [isData, hblank, hcomment]
    rw [List.countP_cons, List.countP_cons, List.countP_cons, List.length_cons]
    omega

theorem map_fst_dataLines (d : Dialect) (source : String) :
    (d.dataLines source).map Prod.fst = (specLines source).filter d.isData := by
  have hfst := List.filter_map (p := d.isData) (f := Prod.fst) (l := (specLines source).zipIdx 1)
  rw [List.zipIdx_map_fst] at hfst
  exact hfst.symm

theorem length_dataLines (d : Dialect) (source : String) :
    (d.dataLines source).length = (specLines source).countP d.isData := by
  rw [List.countP_eq_length_filter, ← map_fst_dataLines, List.length_map]

/-! ## All records -/

theorem of_dataLine {n : Nat} {text : List Char} (h : d.DataLine source n text) :
    1 ≤ n ∧ n ≤ (Text.lines source.toList).length ∧ '\n' ∉ text := by
  obtain ⟨i, raw, rfl, hraw, rfl, -⟩ := h
  obtain ⟨hi, -⟩ := List.getElem?_eq_some_iff.1 hraw
  have hn : '\n' ∉ raw := Text.newline_notMem_of_mem_lines raw (List.mem_of_getElem? hraw)
  refine ⟨by omega, hi, ?_⟩
  split
  · exact fun hmem => hn ((List.dropWhile_sublist _).subset hmem)
  · exact hn

/-- **What is true of all that is loaded.** The lines of the records ascend and are lines of the text. The
    names are names without delimiters, and the notes are trimmed, not empty, and hold neither delimiters
    nor line feeds; with compact rows, there are none. The records and the comments that loading announces
    are, with the blank lines, all lines of the text. -/
theorem load_invariants (h : d.load source = .ok records) :
    (records.Pairwise fun q r => q.line < r.line) ∧
    (∀ r ∈ records, 1 ≤ r.line ∧ r.line ≤ (Text.lines source.toList).length ∧ r.Clean d) ∧
    d.loadReport source =
      ⟨[{ level := .debug
          message := "Loaded " ++ Text.decimal records.length ++ " opcode records (" ++
            Text.decimal (d.commentCount source) ++ " comment lines skipped)" }], .ok records⟩ ∧
    records.length + d.commentCount source + (specLines source).countP isBlankLine =
      (Text.lines source.toList).length := by
  refine ⟨pairwise_line_of_load h, fun r hr => ?_, ?_, ?_⟩
  · obtain ⟨⟨text, n⟩, hp, hrow⟩ := (mem_iff_of_load h).1 hr
    obtain ⟨hpos, hle, hn⟩ := of_dataLine (mem_dataLines_iff.1 hp)
    rw [hrow.line_eq]
    exact ⟨hpos, hle, hrow.clean hn⟩
  · rw [loadReport, h]
    rfl
  · have hlen : records.length = (specLines source).countP d.isData := by
      rw [← length_dataLines, ← List.length_map (f := (·.line)), map_line_of_load h, List.length_map]
    have hlines : (Text.lines source.toList).length = (specLines source).length := by
      rw [specLines, List.length_modifyHead]
    rw [hlen, hlines]
    exact countP_isData_add d (specLines source)

/-- A mark on a blank line, a comment, fields between spaces, and a note with blanks around it. -/
theorem load_invariants_blanks :
    let d : Dialect := ⟨'#', ' ', .any⟩
    let source := "\uFEFF\t\n# c\r\n0x1F NOP Z x\n\n7 _a O N \tb#\t\r"
    let records : List Record :=
      [⟨31, "NOP", ⟨.zero, .zero⟩, none, 3⟩, ⟨7, "_a", ⟨.one, .zero⟩, some "b#", 5⟩]
    d.load source = .ok records ∧ (∀ r ∈ records, r.line ≤ 5 ∧ r.Clean d) ∧
      records.length + d.commentCount source + (specLines source).countP isBlankLine = 5 := by
  intro d source records
  have hload : d.load source = .ok records := by
    subst d source records
    rfl
  have hlines : (Text.lines source.toList).length = 5 := by
    subst source
    rfl
  obtain ⟨-, hclean, -, hcount⟩ := load_invariants hload
  rw [hlines] at hclean hcount
  exact ⟨hload, fun r hr => (hclean r hr).2, hcount⟩

end Dialect

end IsaTable
