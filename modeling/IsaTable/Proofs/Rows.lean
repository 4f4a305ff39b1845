/-
  Rows of a specification, declaratively.

  * `Columns.Describes`: fields that describe a record.
  * `Dialect.IsRow`: a line that holds a record, as a relation.
  * `Dialect.readRow_eq_ok_iff`, `Dialect.load_eq_ok_iff`: reading finds just these records.
  * `Dialect.isName_of_load`: loaded names are names.
-/
import IsaTable.Spec.Load
import Mathlib.Data.List.Forall2

namespace IsaTable

/-- The numbers of fields that a layout admits. -/
def Layout.Admits : Layout → Nat → Prop
  | any, n => n = 4 ∨ n = 5
  | compact, n => n = 4
  | annotated, n => n = 5

namespace Columns

/-- The fields in the order of a row. -/
def fields (c : Columns) : List String :=
  c.opcode :: c.name :: c.arity :: c.extension :: c.note.toList

/-- The fields describe a record: a literal of its opcode, its name, the tokens of its shape, and its
    note unless that is empty. -/
structure Describes (c : Columns) (r : Record) : Prop where
  opcode : Opcode.ofLiteral? c.opcode = some r.opcode
  name : c.name = r.name
  isName : isName r.name = true
  arity : c.arity = r.shape.arity.token
  extension : c.extension = r.shape.extension.token ∨ c.extension = "x" ∧ r.shape.extension = .zero
  note : r.note = c.note.filter (· ≠ "")

end Columns

/-- Line `line` with the given text holds a row with the given record. -/
def Dialect.IsRow (d : Dialect) (line : Nat) (text : List Char) (r : Record) : Prop :=
  d.layout.Admits (d.fields text).length ∧
    ∃ c : Columns, d.fields text = c.fields ∧ c.Describes r ∧ r.line = line

theorem Layout.columns?_eq_some_iff {l : Layout} {fs : List String} {c : Columns} :
    l.columns? fs = some c ↔ l.Admits fs.length ∧ fs = c.fields := by
  obtain ⟨opcode, name, arity, extension, note⟩ := c
  constructor
  · intro h
    unfold columns? at h
    split at h
    all_goals cases h
    all_goals exact ⟨by simp [Admits], rfl⟩
  · rintro ⟨hadmits, rfl⟩
    cases l <;> cases note <;> simp [Admits, Columns.fields] at hadmits <;> rfl

theorem Columns.toRecord_eq_ok_iff {c : Columns} {line : Nat} {r : Record} :
    c.toRecord line = .ok r ↔ c.Describes r ∧ r.line = line := by
  constructor
  · intro h
    unfold toRecord at h
    split at h
    · cases h
    next opcode hopcode =>
    split at h
    next hname =>
      split at h
      · cases h
      next arity harity =>
      split at h
      · cases h
      next extension hextension =>
      cases h
      exact ⟨⟨hopcode, rfl, hname, Arity.ofToken?_eq_some_iff.1 harity,
        Extension.ofToken?_eq_some_iff.1 hextension, rfl⟩, rfl⟩
    · cases h
  · obtain ⟨opcode, name, ⟨arity, extension⟩, note, line'⟩ := r
    rintro ⟨⟨hopcode, hname, hisName, harity, hextension, hnote⟩, hline⟩
    simp only at hopcode hname hisName harity hextension hnote hline
    have ha := Arity.ofToken?_eq_some_iff.2 harity
    have he := Extension.ofToken?_eq_some_iff.2 hextension
    simp [toRecord, hopcode, hisName, ha, he, hname, hnote, hline]

namespace Dialect

variable {d : Dialect}

/-- **Reading a line finds the row that it holds.** -/
theorem readRow_eq_ok_iff {line : Nat} {text : List Char} {r : Record} :
    d.readRow line text = .ok r ↔ d.IsRow line text r := by
  simp only [readRow, IsRow]
  cases hc : d.layout.columns? (d.fields text) with
  | none =>
    refine iff_of_false (by simp) ?_
    rintro ⟨hadmits, c, hfields, -, -⟩
    rw [Layout.columns?_eq_some_iff.2 ⟨hadmits, hfields⟩] at hc
    cases hc
  | some c =>
    obtain ⟨hadmits, hfields⟩ := Layout.columns?_eq_some_iff.1 hc
    have hmap : (c.toRecord line).mapError (RowError.mk line) = .ok r ↔ c.toRecord line = .ok r := by
      cases c.toRecord line <;> simp [Except.mapError]
    refine hmap.trans (Columns.toRecord_eq_ok_iff.trans ?_)
    constructor
    · rintro ⟨hr, hline⟩
      exact ⟨hadmits, c, hfields, hr, hline⟩
    · rintro ⟨-, c', hfields', hr, hline⟩
      rw [Layout.columns?_eq_some_iff.2 ⟨hadmits, hfields'⟩] at hc
      obtain rfl := Option.some.inj hc
      exact ⟨hr, hline⟩

theorem IsRow.line_eq {line : Nat} {text : List Char} {r : Record} (h : d.IsRow line text r) :
    r.line = line := by
  obtain ⟨-, -, -, -, hline⟩ := h
  exact hline

/-- A line holds one row at most. -/
theorem IsRow.unique {line : Nat} {text : List Char} {q r : Record} (hq : d.IsRow line text q)
    (hr : d.IsRow line text r) : q = r :=
  Except.ok.inj ((readRow_eq_ok_iff.2 hq).symm.trans (readRow_eq_ok_iff.2 hr))

end Dialect

/-! ## All rows -/

/-- A traversal succeeds just when each step does. -/
theorem mapM_eq_ok_iff {ε α β : Type} {f : α → Except ε β} {xs : List α} {ys : List β} :
    xs.mapM f = .ok ys ↔ List.Forall₂ (fun x y => f x = .ok y) xs ys := by
  constructor
  · intro h
    induction xs generalizing ys with
    | nil =>
      cases h
      exact .nil
    | cons x xs ih =>
      rw [List.mapM_cons] at h
      rcases hx : f x with e | y
      · rw [hx] at h
        cases h
      rcases hxs : xs.mapM f with e | zs
      · rw [hx, hxs] at h
        cases h
      rw [hx, hxs] at h
      cases h
      exact .cons hx (ih hxs)
  · intro h
    induction h with
    | nil => rfl
    | cons hx _ ih =>
      rw [List.mapM_cons, hx, ih]
      rfl

/-- Where each step can succeed, the traversal does. -/
theorem exists_mapM_ok_iff {ε α β : Type} {f : α → Except ε β} {xs : List α} :
    (∃ ys, xs.mapM f = .ok ys) ↔ ∀ x ∈ xs, ∃ y, f x = .ok y := by
  simp only [mapM_eq_ok_iff]
  induction xs with
  | nil => exact iff_of_true ⟨[], .nil⟩ (by simp)
  | cons x xs ih =>
    simp only [List.forall₂_cons_left_iff, List.forall_mem_cons, ← ih]
    constructor
    · rintro ⟨_, y, ys, hx, hys, rfl⟩
      exact ⟨⟨y, hx⟩, ys, hys⟩
    · rintro ⟨⟨y, hx⟩, ys, hys⟩
      exact ⟨y :: ys, y, ys, hx, hys, rfl⟩

/-- What is related item by item has a partner on the other side. -/
theorem exists_mem_of_forall₂ {α β : Type} {R : α → β → Prop} {xs : List α} {ys : List β}
    (h : List.Forall₂ R xs ys) :
    (∀ x ∈ xs, ∃ y ∈ ys, R x y) ∧ ∀ y ∈ ys, ∃ x ∈ xs, R x y := by
  induction h with
  | nil => simp
  | cons hxy _ ih =>
    obtain ⟨hleft, hright⟩ := ih
    constructor
    · rintro x (_ | ⟨_, hx⟩)
      · exact ⟨_, List.mem_cons_self, hxy⟩
      · obtain ⟨y, hy, hr⟩ := hleft x hx
        exact ⟨y, List.mem_cons_of_mem _ hy, hr⟩
    · rintro y (_ | ⟨_, hy⟩)
      · exact ⟨_, List.mem_cons_self, hxy⟩
      · obtain ⟨x, hx, hr⟩ := hright y hy
        exact ⟨x, List.mem_cons_of_mem _ hx, hr⟩

namespace Dialect

variable {d : Dialect} {source : String} {records : List Record}

/-- **Loading finds the rows of all data lines, in order.** -/
theorem load_eq_ok_iff :
    d.load source = .ok records ↔
      List.Forall₂ (fun p r => d.IsRow p.2 p.1 r) (d.dataLines source) records := by
  rw [load, mapM_eq_ok_iff]
  simp only [readRow_eq_ok_iff]

/-- Loading succeeds just when each data line holds a row. -/
theorem exists_load_iff :
    (∃ records, d.load source = .ok records) ↔
      ∀ p ∈ d.dataLines source, ∃ r, d.IsRow p.2 p.1 r := by
  rw [load, exists_mapM_ok_iff]
  simp only [readRow_eq_ok_iff]

/-- The records are those of the data lines. -/
theorem mem_iff_of_load (h : d.load source = .ok records) {r : Record} :
    r ∈ records ↔ ∃ p ∈ d.dataLines source, d.IsRow p.2 p.1 r := by
  obtain ⟨hleft, hright⟩ := exists_mem_of_forall₂ (load_eq_ok_iff.1 h)
  constructor
  · exact hright r
  · rintro ⟨p, hp, hr⟩
    obtain ⟨q, hq, hrow⟩ := hleft p hp
    rwa [hr.unique hrow]

theorem isName_of_load (h : d.load source = .ok records) {r : Record} (hr : r ∈ records) :
    isName r.name = true := by
  obtain ⟨-, -, -, c, -, hc, -⟩ := (mem_iff_of_load h).1 hr
  exact hc.isName

/-! ## Line numbers -/

/-- Line `n` of a text, counted from one, holds neither blanks only nor a comment, once byte order
    marks at the start of the first line are dropped. -/
def DataLine (d : Dialect) (source : String) (n : Nat) (text : List Char) : Prop :=
  ∃ i raw, n = i + 1 ∧ (Text.lines source.toList)[i]? = some raw ∧
    text = (if i = 0 then raw.dropWhile (· = byteOrderMark) else raw) ∧
    Text.trim text ≠ [] ∧ (Text.trim text).head? ≠ some d.comment

theorem isData_iff {text : List Char} :
    d.isData text = true ↔ Text.trim text ≠ [] ∧ (Text.trim text).head? ≠ some d.comment := by
  simp [isData, isBlankLine, isComment]

/-- A line that holds blanks only holds no row. -/
theorem not_isData_of_isBlankLine {text : List Char} (h : isBlankLine text = true) :
    ¬ d.isData text = true := by
  simp [isData, h]

/-- Nor is it a comment. -/
theorem isComment_of_isBlankLine {text : List Char} (h : isBlankLine text = true) :
    d.isComment text = false := by
  rw [isComment, List.isEmpty_iff.1 h]
  rfl

/-- The first character that is no blank tells that a line has to hold a row. -/
theorem dataLine_of_head? {i : Nat} {raw text : List Char} {c : Char}
    (hraw : (Text.lines source.toList)[i]? = some raw)
    (htext : text = if i = 0 then raw.dropWhile (· = byteOrderMark) else raw)
    (hc : (Text.trim text).head? = some c) (hcomment : c ≠ d.comment) :
    d.DataLine source (i + 1) text := by
  refine ⟨i, raw, rfl, hraw, htext, ?_, ?_⟩
  · intro hnil
    rw [hnil] at hc
    cases hc
  · rw [hc]
    simpa using hcomment

/-- A line of a specification is that of the text, but for byte order marks at the very start. -/
theorem getElem?_specLines {i : Nat} {text : List Char} :
    (specLines source)[i]? = some text ↔ ∃ raw, (Text.lines source.toList)[i]? = some raw ∧
      text = if i = 0 then raw.dropWhile (· = byteOrderMark) else raw := by
  rw [specLines, List.getElem?_modifyHead]
  split
  · simp only [Option.map_eq_some_iff, eq_comm (b := text)]
  · simp

/-- **The data lines of a text** are listed with their numbers. -/
theorem mem_dataLines_iff {n : Nat} {text : List Char} :
    (text, n) ∈ d.dataLines source ↔ d.DataLine source n text := by
  rw [dataLines, List.mem_filter, List.mk_mem_zipIdx_iff_le_and_getElem?_sub, isData_iff,
    getElem?_specLines]
  constructor
  · rintro ⟨⟨hn, raw, hraw, htext⟩, hdata⟩
    exact ⟨n - 1, raw, by omega, hraw, htext, hdata⟩
  · rintro ⟨i, raw, rfl, hraw, htext, hdata⟩
    exact ⟨⟨by omega, raw, hraw, htext⟩, hdata⟩

/-- The numbers of the data lines ascend. -/
theorem pairwise_dataLines : (d.dataLines source).Pairwise fun p q => p.2 < q.2 := by
  have hsub : ((d.dataLines source).map (·.2)).Sublist
      (((specLines source).zipIdx 1).map (·.2)) := List.filter_sublist.map _
  rw [List.zipIdx_map_snd] at hsub
  exact List.pairwise_map.1 ((List.pairwise_lt_range' 1).sublist hsub)

theorem map_line_of_load (h : d.load source = .ok records) :
    records.map (·.line) = (d.dataLines source).map (·.2) := by
  rw [← List.forall₂_eq_eq_eq, List.forall₂_map_left_iff, List.forall₂_map_right_iff]
  exact (load_eq_ok_iff.1 h).flip.imp fun _ _ => IsRow.line_eq

/-- **The lines of the records ascend.** -/
theorem pairwise_line_of_load (h : d.load source = .ok records) :
    records.Pairwise fun q r => q.line < r.line := by
  rw [← List.pairwise_map (R := (· < ·)), map_line_of_load h, List.pairwise_map]
  exact pairwise_dataLines

end Dialect

end IsaTable
