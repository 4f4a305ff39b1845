/-
  Specifications as they are written.

  The delimiter and the comment character may be any characters, blanks, digits and letters too. A row
  is read back all the same if the delimiter occurs in none of its fields and the comment character
  does not begin it.

  * `Row`: a row that can be written in a dialect.
  * `SkippedLine`: a line that is passed over.
  * `Item`, `Item.source`, `Item.records`: what is written line by line, its text, and what it says.
  * `Row.isData_text`, `Row.readRow_text`: a written row is taken for a row, and is read back.
  * `Item.load_source`: a written specification is read back.
-/
import IsaTable.Proofs.Concat
import IsaTable.Proofs.Rows
import IsaTable.Proofs.Trimming

namespace IsaTable

/-! ## Items -/

/-- A row that can be written in a dialect. -/
structure Row (d : Dialect) where
  columns : Columns
  opcode : Opcode
  shape : Shape
  opcode_eq : Opcode.ofLiteral? columns.opcode = some opcode
  isName : isName columns.name = true
  arity_eq : columns.arity = shape.arity.token
  extension_eq : columns.extension = shape.extension.token ∨
    columns.extension = "x" ∧ shape.extension = .zero
  trim_note : ∀ note ∈ columns.note, Text.trim note.toList = note.toList
  newline_notMem_note : ∀ note ∈ columns.note, '\n' ∉ note.toList
  admits : d.layout.Admits columns.fields.length
  delimiter_notMem : ∀ field ∈ columns.fields, d.delimiter ∉ field.toList
  head?_ne_comment : columns.opcode.toList.head? ≠ some d.comment

/-- A line that is passed over: a blank line or a comment. -/
structure SkippedLine (d : Dialect) where
  text : List Char
  newline_notMem : '\n' ∉ text
  blank_or_comment : Text.trim text = [] ∨ (Text.trim text).head? = some d.comment

/-- What is written on a line. -/
inductive Item (d : Dialect) where
  | skipped (line : SkippedLine d)
  | row (row : Row d)

namespace Row

variable {d : Dialect} (row : Row d)

/-- The text of a row: its fields with the delimiter between them. -/
def text : List Char :=
  [d.delimiter].intercalate (row.columns.fields.map String.toList)

/-- The record of a row on a line. An empty note is none. -/
def record (line : Nat) : Record where
  opcode := row.opcode
  name := row.columns.name
  shape := row.shape
  note := row.columns.note.filter (· ≠ "")
  line := line

end Row

namespace Item

variable {d : Dialect}

/-- The text of a line. -/
def text : Item d → List Char
  | skipped line => line.text
  | row r => r.text

/-- The record on a line, if there is one. -/
def record? : Item d → Nat → Option Record
  | skipped _, _ => none
  | row r, line => some (r.record line)

/-- The text of a specification, each line ended by a line feed. -/
def source (items : List (Item d)) : String :=
  String.ofList (Text.unlines (items.map text))

/-- The records of the rows in order. Their lines are counted from one among all items. -/
def records (items : List (Item d)) : List Record :=
  (items.zipIdx 1).filterMap fun (item, line) => item.record? line

end Item

/-! ## Rows -/

theorem notMem_intercalate {c b : Char} (hb : c ≠ b) {ls : List (List Char)} (h : ∀ l ∈ ls, c ∉ l) :
    c ∉ [b].intercalate ls := by
  induction ls with
  | nil => simp
  | cons l ls ih =>
    obtain ⟨hl, hls⟩ := List.forall_mem_cons.1 h
    cases ls with
    | nil => simpa using hl
    | cons m ls =>
      rw [List.intercalate_cons_cons]
      simp only [List.mem_append, List.mem_singleton, not_or]
      exact ⟨⟨hl, hb⟩, ih hls⟩

namespace Row

variable {d : Dialect} (row : Row d)

/-- The fields before the note hold no blanks. -/
theorem isBlank_of_mem_field :
    ∀ field ∈ [row.columns.opcode, row.columns.name, row.columns.arity, row.columns.extension],
      ∀ c ∈ field.toList, Text.isBlank c = false := by
  simp only [List.forall_mem_cons]
  refine ⟨(Opcode.isBlank_of_ofLiteral? row.opcode_eq).2, ?_, ?_, ?_, List.forall_mem_nil _⟩
  · intro c hc
    exact Text.isBlank_of_isNameRest (Text.isNameRest_of_mem row.isName c hc)
  · rw [row.arity_eq]
    cases row.shape.arity <;> exact Text.isBlank_of_any (by decide)
  · rcases row.extension_eq with h | ⟨h, -⟩
    · rw [h]
      cases row.shape.extension <;> exact Text.isBlank_of_any (by decide)
    · rw [h]
      exact Text.isBlank_of_any (by decide)

theorem fields_columns : row.columns.fields =
    [row.columns.opcode, row.columns.name, row.columns.arity, row.columns.extension] ++
      row.columns.note.toList := rfl

theorem trim_of_mem_fields : ∀ field ∈ row.columns.fields, Text.trim field.toList = field.toList := by
  rw [fields_columns, List.forall_mem_append]
  constructor
  · intro field hfield
    exact Text.trim_eq_self (row.isBlank_of_mem_field field hfield)
  · intro note hnote
    exact row.trim_note note (Option.mem_toList.1 hnote)

theorem newline_notMem_of_mem_fields : ∀ field ∈ row.columns.fields, '\n' ∉ field.toList := by
  rw [fields_columns, List.forall_mem_append]
  constructor
  · intro field hfield hmem
    exact absurd (row.isBlank_of_mem_field field hfield '\n' hmem) (by decide)
  · intro note hnote
    exact row.newline_notMem_note note (Option.mem_toList.1 hnote)

theorem newline_notMem_text (hd : d.delimiter ≠ '\n') : '\n' ∉ row.text :=
  notMem_intercalate hd.symm (List.forall_mem_map.2 row.newline_notMem_of_mem_fields)

/-- A written row is cut into its fields. -/
theorem fields_text : d.fields row.text = row.columns.fields := by
  have hsplit : row.text.splitOn d.delimiter = row.columns.fields.map String.toList :=
    List.splitOn_intercalate d.delimiter (List.forall_mem_map.2 row.delimiter_notMem)
      (List.cons_ne_nil _ _)
  rw [Dialect.fields, hsplit, List.map_map]
  refine (List.map_congr_left fun field hfield => ?_).trans (List.map_id' _)
  rw [Function.comp_apply, row.trim_of_mem_fields field hfield, String.ofList_toList]

/-- **A written row is read back.** -/
theorem readRow_text (line : Nat) : d.readRow line row.text = .ok (row.record line) := by
  rw [Dialect.readRow_eq_ok_iff, Dialect.IsRow, fields_text]
  exact ⟨row.admits, row.columns, rfl,
    ⟨row.opcode_eq, rfl, row.isName, row.arity_eq, row.extension_eq, rfl⟩, rfl⟩

/-- **A written row is taken for a row:** it begins with its literal. -/
theorem isData_text : d.isData row.text = true := by
  obtain ⟨hne, hblank⟩ := Opcode.isBlank_of_ofLiteral? row.opcode_eq
  obtain ⟨c, cs, hliteral⟩ := List.exists_cons_of_ne_nil hne
  have htext : row.text.head? = some c := by
    rw [text, Columns.fields, List.map_cons, List.map_cons, List.intercalate_cons_cons, hliteral]
    rfl
  have htrim := Text.head?_trim htext (hblank c (by simp [hliteral]))
  rw [Dialect.isData_iff, htrim]
  constructor
  · intro hnil
    rw [hnil] at htrim
    cases htrim
  · have hcomment := row.head?_ne_comment
    rwa [hliteral] at hcomment

end Row

theorem SkippedLine.isData_text {d : Dialect} (line : SkippedLine d) : d.isData line.text = false := by
  rw [Bool.eq_false_iff, ne_eq, Dialect.isData_iff]
  rintro ⟨hne, hcomment⟩
  exact line.blank_or_comment.elim hne hcomment

/-! ## Specifications -/

namespace Item

variable {d : Dialect}

theorem newline_notMem_text (hd : d.delimiter ≠ '\n') (item : Item d) : '\n' ∉ item.text := by
  cases item with
  | skipped line => exact line.newline_notMem
  | row r => exact r.newline_notMem_text hd

/-- The lines of the text are those of the items, but for carriage returns at their ends. -/
theorem specLines_source (hd : d.delimiter ≠ '\n') {items : List (Item d)}
    (hmark : ∀ item ∈ items.head?, item.text.head? ≠ some byteOrderMark) :
    specLines (source items) = items.map fun item => Text.dropReturn item.text := by
  have hhead : (source items).toList.head? ≠ some byteOrderMark := by
    rw [source, String.toList_ofList]
    cases items with
    | nil => simp [Text.unlines]
    | cons item items =>
      have hitem := hmark item rfl
      cases htext : item.text with
      | nil => simp [Text.unlines, htext, byteOrderMark]
      | cons c cs => simpa [Text.unlines, htext] using hitem
  rw [specLines_of_head?_ne hhead, source, String.toList_ofList,
    Text.lines_unlines_of_notMem (List.forall_mem_map.2 fun item _ => item.newline_notMem_text hd),
    List.map_map]
  rfl

/-- The lines that hold rows, counted from any line on, hold the records of the items. -/
theorem forall₂_isRow (hd : d.delimiter ≠ '\r') (items : List (Item d)) (n : Nat) :
    List.Forall₂ (fun p r => d.IsRow p.2 p.1 r)
      (((items.map fun item => Text.dropReturn item.text).zipIdx n).filter fun p => d.isData p.1)
      ((items.zipIdx n).filterMap fun p => p.1.record? p.2) := by
  induction items generalizing n with
  | nil => exact .nil
  | cons item items ih =>
    rw [List.map_cons, List.zipIdx_cons, List.zipIdx_cons]
    cases item with
    | skipped line =>
      have hdata : ¬ d.isData (Text.dropReturn (skipped line).text) = true := by
        rw [Dialect.isData_dropReturn, text, line.isData_text]
        exact Bool.false_ne_true
      rw [List.filter_cons, if_neg hdata]
      exact ih (n + 1)
    | row r =>
      have hdata : d.isData (Text.dropReturn (row r).text) = true := by
        rw [Dialect.isData_dropReturn, text, r.isData_text]
      have hread : d.readRow n (Text.dropReturn r.text) = .ok (r.record n) := by
        rw [Dialect.readRow_dropReturn hd, r.readRow_text]
      rw [List.filter_cons, if_pos hdata]
      exact .cons (Dialect.readRow_eq_ok_iff.1 hread) (ih (n + 1))

/-- **A written specification is read back.** The delimiter ends no line, and no byte order mark stands
    at the start. Then the records are those of the rows, in order, with their fields and their
    lines. -/
theorem load_source (hn : d.delimiter ≠ '\n') (hr : d.delimiter ≠ '\r') (items : List (Item d))
    (hmark : ∀ item ∈ items.head?, item.text.head? ≠ some byteOrderMark) :
    d.load (source items) = .ok (records items) := by
  rw [Dialect.load_eq_ok_iff, Dialect.dataLines, specLines_source hn hmark]
  exact forall₂_isRow hr items 1

/-- Fields between spaces, comments that begin with a letter, and carriage returns at the ends of some
    lines. -/
theorem load_source_spaces :
    let d : Dialect := ⟨'N', ' ', .any⟩
    d.delimiter ≠ '\n' ∧ d.delimiter ≠ '\r' ∧
      d.load "\tNote\r\n0x1F NOP Z x\n\r\n0b11 self T Y \n7 _a O N \uFEFF#\n" =
        .ok [⟨31, "NOP", ⟨.zero, .zero⟩, none, 2⟩, ⟨3, "self", ⟨.two, .sign⟩, none, 4⟩,
          ⟨7, "_a", ⟨.one, .zero⟩, some "\uFEFF#", 5⟩] := by
  intro d
  let comment : SkippedLine d := ⟨"\tNote\r".toList, by decide, by decide⟩
  let blank : SkippedLine d := ⟨['\r'], by decide, by decide⟩
  let unnoted : Row d := ⟨⟨"0x1F", "NOP", "Z", "x", none⟩, 31, ⟨.zero, .zero⟩, by decide, by decide,
    rfl, by decide, by simp, by simp, Or.inl rfl, by decide, by decide⟩
  let empty : Row d := ⟨⟨"0b11", "self", "T", "Y", some ""⟩, 3, ⟨.two, .sign⟩, by decide, by decide,
    rfl, by decide, by simp; decide, by simp, Or.inr rfl, by decide, by decide⟩
  let noted : Row d := ⟨⟨"7", "_a", "O", "N", some "\uFEFF#"⟩, 7, ⟨.one, .zero⟩, by decide, by decide,
    rfl, by decide, by simp; decide, by simp, Or.inr rfl, by decide, by decide⟩
  let items : List (Item d) :=
    [.skipped comment, .row unnoted, .skipped blank, .row empty, .row noted]
  have hsource : source items =
      "\tNote\r\n0x1F NOP Z x\n\r\n0b11 self T Y \n7 _a O N \uFEFF#\n" := by
    decide
  refine ⟨by decide, by decide, (congrArg d.load hsource.symm).trans ?_⟩
  exact load_source (by decide) (by decide) items (by rintro item ⟨⟩; decide)

end Item

end IsaTable
