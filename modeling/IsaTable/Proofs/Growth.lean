/-
  Specifications that grow at their end.

  Rows that are put behind a text do not touch what the rows before them say.

  * `Dialect.load_of_append`: a beginning of good rows is good.
  * `Table.toList_prefix_foldl_push`, `Table.build_of_append`: records are put behind the entries of a
    table.
  * `Table.Represents.entry?_append`, ..: what is found in a table is found in one with more records.
  * `CodeList.pieces_prefix`: where the lines of a code list end does not depend on what follows.
  * `Table.ofSource_of_append`: what the beginning of a text says, the text says.
-/
import IsaTable.Proofs.Concat
import IsaTable.Proofs.Outcome
import IsaTable.Proofs.Rendering

namespace IsaTable

/-! ## Rows -/

/-- The lines of the beginning of a text are lines of the text. -/
theorem specLines_prefix {a : String} (ha : EndsLine a) (b : String) :
    specLines a <+: specLines (a ++ b) := by
  by_cases hempty : a = ""
  · subst hempty
    exact List.nil_prefix
  · rw [specLines_append_lines ha fun h => absurd h hempty]
    exact List.prefix_append _ _

namespace Dialect

variable {d : Dialect} {a b : String} {records : List Record}

theorem dataLines_prefix (ha : EndsLine a) (b : String) :
    d.dataLines a <+: d.dataLines (a ++ b) := by
  obtain ⟨later, hlines⟩ := specLines_prefix ha b
  rw [dataLines, dataLines, ← hlines, List.zipIdx_append, List.filter_append]
  exact List.prefix_append _ _

/-- If all rows of a text are good, those of its beginning are, and its records come first. -/
theorem load_of_append (ha : EndsLine a) (h : d.load (a ++ b) = .ok records) :
    ∃ ra rb, d.load a = .ok ra ∧ records = ra ++ rb := by
  obtain ⟨later, hlines⟩ := dataLines_prefix (d := d) ha b
  rw [load, ← hlines, List.mapM_append] at h
  rw [load]
  cases hra : (d.dataLines a).mapM fun p => d.readRow p.2 p.1 with
  | error e =>
    rw [hra] at h
    cases h
  | ok ra =>
    rw [hra] at h
    cases hrb : later.mapM fun p => d.readRow p.2 p.1 with
    | error e =>
      rw [hrb] at h
      cases h
    | ok rb =>
      rw [hrb] at h
      cases h
      exact ⟨ra, rb, rfl, rfl⟩

end Dialect

/-! ## Tables -/

namespace Table

variable {t t₀ : Table} {ra rb : List Record}

/-- Records are put behind the entries. -/
theorem toList_prefix_foldl_push (t : Table) (records : List Record) :
    t.toList <+: (records.foldl push t).toList := by
  induction records generalizing t with
  | nil => exact List.prefix_rfl
  | cons r records ih =>
    have hpush : t.toList <+: (t.push r).toList := by
      rw [toList_push]
      exact List.prefix_append _ _
    exact hpush.trans (ih (t.push r))

/-- **A beginning of records that have a table has one,** of which their table goes on. -/
theorem build_of_append (h : build (ra ++ rb) = .ok t) :
    ∃ t₀, build ra = .ok t₀ ∧ t₀.toList <+: t.toList := by
  obtain ⟨hlen, hd, rfl⟩ := build_eq_ok_iff.1 h
  have hlen₀ : ra.length < UInt32.size := by
    rw [List.length_append] at hlen
    omega
  have hd₀ : Distinct ra := (List.pairwise_append.1 hd).1
  refine ⟨_, build_eq_ok_iff.2 ⟨hlen₀, hd₀, rfl⟩, ?_⟩
  rw [List.foldl_append]
  exact toList_prefix_foldl_push _ rb

/-- A record keeps its position. -/
theorem getElem?_append_of_some {i : Nat} {r : Record} (hr : ra[i]? = some r) :
    (ra ++ rb)[i]? = some r := by
  rw [List.getElem?_append_left (List.getElem?_eq_some_iff.1 hr).1, hr]

section
variable (h₀ : t₀.Represents ra) (h : t.Represents (ra ++ rb))
include h₀ h

theorem Represents.entry?_append {name : String} {e : Entry} (he : t₀.entry? name = some e) :
    t.entry? name = some e := by
  obtain ⟨i, r, hr, hname, rfl⟩ := h₀.entry?_eq_some_iff.1 he
  exact h.entry?_eq_some_iff.2 ⟨i, r, getElem?_append_of_some hr, hname, rfl⟩

theorem Represents.entryOfValue?_append {value : Opcode} {e : Entry}
    (he : t₀.entryOfValue? value = some e) : t.entryOfValue? value = some e := by
  obtain ⟨i, r, hr, hvalue, rfl⟩ := h₀.entryOfValue?_eq_some_iff.1 he
  exact h.entryOfValue?_eq_some_iff.2 ⟨i, r, getElem?_append_of_some hr, hvalue, rfl⟩

theorem Represents.entryOfOrdinal?_append {o : UInt32} {e : Entry}
    (he : t₀.entryOfOrdinal? o = some e) : t.entryOfOrdinal? o = some e := by
  rw [entryOfOrdinal?, h₀.entries] at he
  obtain ⟨r, hr, rfl⟩ := Option.map_eq_some_iff.1 he
  rw [entryOfOrdinal?, h.entries, getElem?_append_of_some hr]
  rfl

end

end Table

/-! ## Code lists -/

/-- **A code list goes on** where that of the first entries ends. -/
theorem CodeList.pieces_prefix {t t₀ : Table} (perLine : Nat) (h : t₀.toList <+: t.toList) :
    pieces perLine t₀ <+: pieces perLine t := by
  obtain ⟨later, hentries⟩ := h
  rw [pieces, pieces, ← hentries, List.zipIdx_append, List.map_append]
  exact List.prefix_append _ _

theorem Format.render_onikiri_prefix {t t₀ : Table} (perLine : Nat) (h : t₀.toList <+: t.toList) :
    ∃ text₀ rest, (Format.onikiri perLine).render t₀ = .ok text₀ ∧
      (Format.onikiri perLine).render t = .ok (text₀ ++ rest) := by
  obtain ⟨later, hpieces⟩ := CodeList.pieces_prefix perLine h
  refine ⟨_, String.join later, render_of_pieces rfl, ?_⟩
  have htext : (Format.onikiri perLine).render t = .ok (String.join (CodeList.pieces perLine t)) :=
    render_of_pieces rfl
  have hjoin : String.join (CodeList.pieces perLine t) =
      String.join (CodeList.pieces perLine t₀) ++ String.join later := by
    apply String.toList_inj.1
    rw [← hpieces, String.toList_append, String.toList_join, String.toList_join, String.toList_join,
      List.flatMap_append]
  rw [htext, hjoin]
  rfl

/-! ## Texts -/

namespace Table

/-- **What the beginning of a text says, the text says.** Up to a line end, a text that has a table begins
    with one that has a table, too. Its entries come first, with their ordinals, lines and notes; what is
    found among them is found in the larger table, and the code list of the larger table begins with
    theirs. -/
theorem ofSource_of_append {d : Dialect} {a b : String} {t : Table} (ha : EndsLine a)
    (h : ofSource d (a ++ b) = .ok t) :
    ∃ t₀, ofSource d a = .ok t₀ ∧ t₀.toList <+: t.toList ∧
      (∀ name e, t₀.entry? name = some e → t.entry? name = some e) ∧
      (∀ value e, t₀.entryOfValue? value = some e → t.entryOfValue? value = some e) ∧
      (∀ o e, t₀.entryOfOrdinal? o = some e → t.entryOfOrdinal? o = some e) ∧
      ∀ perLine, ∃ text₀ rest, (Format.onikiri perLine).render t₀ = .ok text₀ ∧
        (Format.onikiri perLine).render t = .ok (text₀ ++ rest) := by
  obtain ⟨records, hload, hbuild⟩ := ofSource_eq_ok_iff.1 h
  obtain ⟨ra, rb, hload₀, rfl⟩ := Dialect.load_of_append ha hload
  obtain ⟨t₀, hbuild₀, hentries⟩ := build_of_append hbuild
  have ht := (represents_of_build hbuild).1
  have ht₀ := (represents_of_build hbuild₀).1
  exact ⟨t₀, ofSource_eq_ok_iff.2 ⟨ra, hload₀, hbuild₀⟩, hentries, fun _ _ => ht₀.entry?_append ht,
    fun _ _ => ht₀.entryOfValue?_append ht, fun _ _ => ht₀.entryOfOrdinal?_append ht,
    fun perLine => Format.render_onikiri_prefix perLine hentries⟩

/-- Byte order marks begin comments here, and one stands behind the first row. -/
theorem ofSource_of_append_mark :
    let d : Dialect := ⟨'\uFEFF', ',', .any⟩
    let a := "0,A,Z,N\n"
    let b := "\uFEFF more\n1,B,O,Y,b\n"
    EndsLine a ∧ ∃ t t₀, ofSource d (a ++ b) = .ok t ∧ ofSource d a = .ok t₀ ∧
      t.names = ["A", "B"] ∧ t₀.toList <+: t.toList ∧
      ∀ name e, t₀.entry? name = some e → t.entry? name = some e := by
  intro d a b
  have ha : EndsLine a := by decide
  have hload : d.load "0,A,Z,N\n\uFEFF more\n1,B,O,Y,b\n" =
      .ok [⟨0, "A", ⟨.zero, .zero⟩, none, 1⟩, ⟨1, "B", ⟨.one, .sign⟩, some "b", 3⟩] := by
    subst d; rfl
  have htext : "0,A,Z,N\n\uFEFF more\n1,B,O,Y,b\n" = a ++ b := by decide
  rw [htext] at hload
  have hsource := ofSource_eq_ok_iff.2 ⟨_, hload, build_eq_ok_iff.2 ⟨by decide, by decide, rfl⟩⟩
  obtain ⟨t₀, hsource₀, hentries, hnames, -⟩ := ofSource_of_append ha hsource
  exact ⟨ha, _, t₀, hsource, hsource₀, rfl, hentries, hnames⟩

end Table

end IsaTable
