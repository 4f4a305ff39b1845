/-
  What becomes of a specification text.

  * `Dialect.RowAt`: the row that a line of a text holds.
  * `Dialect.Repeats`: a line whose row has the name or the value of an earlier one.
  * `Table.ofSource_outcome`: a text with a faulty row is refused for a row; of the others, one whose
    rows do not repeat gives a table, and one whose rows do is refused for the first that does.
-/
import IsaTable.Proofs.Contents
import IsaTable.Proofs.Rows
import IsaTable.Table.Source

namespace IsaTable

/-! ## Lines of records -/

/-- Records whose lines ascend are distinct just when no two of them that differ in their lines share
    a name or a value. -/
theorem distinct_iff_of_ascending {records : List Record}
    (hasc : records.Pairwise fun q r => q.line < r.line) :
    Distinct records ↔ ∀ q ∈ records, ∀ r ∈ records, q.line < r.line →
      q.name ≠ r.name ∧ q.opcode ≠ r.opcode := by
  constructor
  · intro hd q hq r hr
    refine List.Pairwise.forall_of_forall_of_flip (R := fun q r : Record =>
      q.line < r.line → q.name ≠ r.name ∧ q.opcode ≠ r.opcode) ?_ ?_ ?_ hq hr
    · exact fun r _ hlt => absurd hlt (Nat.lt_irrefl _)
    · refine List.Pairwise.imp ?_ hd
      exact fun h _ => h
    · exact hasc.imp fun hlt hgt => absurd hlt (Nat.lt_asymm hgt)
  · intro h
    exact hasc.imp_of_mem fun hq hr hlt => h _ hq _ hr hlt

/-- Where lines ascend, what has a smaller line stands before. -/
theorem mem_of_line_lt {α : Type} {line : α → Nat} {earlier later : List α} {q s : α}
    (hasc : (earlier ++ s :: later).Pairwise fun q r => line q < line r)
    (hq : q ∈ earlier ++ s :: later) (hlt : line q < line s) : q ∈ earlier := by
  rw [List.pairwise_append, List.pairwise_cons] at hasc
  rcases List.mem_append.1 hq with hq | hq
  · exact hq
  rcases List.mem_cons.1 hq with rfl | hq
  · exact absurd hlt (Nat.lt_irrefl _)
  · exact absurd hlt (Nat.lt_asymm (hasc.2.1.1 q hq))

namespace Dialect

/-- Line `n` of a text holds a row with the given record. -/
def RowAt (d : Dialect) (source : String) (n : Nat) (r : Record) : Prop :=
  ∃ text, d.DataLine source n text ∧ d.IsRow n text r

/-- Line `n` of a text holds a row with the name or the value of an earlier one. -/
def Repeats (d : Dialect) (source : String) (n : Nat) : Prop :=
  ∃ m r s, m < n ∧ d.RowAt source m r ∧ d.RowAt source n s ∧ (r.name = s.name ∨ r.opcode = s.opcode)

variable {d : Dialect} {source : String} {records : List Record}

/-- The records are the rows of the text, each with the number of its line. -/
theorem rowAt_iff_of_load (h : d.load source = .ok records) {n : Nat} {r : Record} :
    d.RowAt source n r ↔ r ∈ records ∧ r.line = n := by
  rw [mem_iff_of_load h]
  constructor
  · rintro ⟨text, hline, hr⟩
    exact ⟨⟨(text, n), mem_dataLines_iff.2 hline, hr⟩, hr.line_eq⟩
  · rintro ⟨⟨⟨text, m⟩, hp, hr⟩, rfl⟩
    have hm : r.line = m := hr.line_eq
    rw [hm]
    exact ⟨text, mem_dataLines_iff.1 hp, hr⟩

/-- The rows of a text are distinct just when none of them repeats. -/
theorem distinct_iff_of_load (h : d.load source = .ok records) :
    Distinct records ↔ ∀ m n r s, m < n → d.RowAt source m r → d.RowAt source n s →
      r.name ≠ s.name ∧ r.opcode ≠ s.opcode := by
  rw [distinct_iff_of_ascending (pairwise_line_of_load h)]
  simp only [rowAt_iff_of_load h]
  constructor
  · rintro hd m n q r hlt ⟨hq, rfl⟩ ⟨hr, rfl⟩
    exact hd q hq r hr hlt
  · intro hd q hq r hr hlt
    exact hd _ _ q r hlt ⟨hq, rfl⟩ ⟨hr, rfl⟩

/-- Loading fails just when a data line holds no row. -/
theorem exists_load_error_iff :
    (∃ e, d.load source = .error e) ↔ ∃ n text, d.DataLine source n text ∧ ∀ r, ¬ d.IsRow n text r := by
  constructor
  · rintro ⟨e, he⟩
    by_contra hall
    push Not at hall
    obtain ⟨records, hr⟩ := exists_load_iff.2 fun p hp => hall p.2 p.1 (mem_dataLines_iff.1 hp)
    rw [hr] at he
    cases he
  · rintro ⟨n, text, hline, hno⟩
    cases hl : d.load source with
    | error e => exact ⟨e, rfl⟩
    | ok records =>
      obtain ⟨r, hr⟩ := exists_load_iff.1 ⟨records, hl⟩ (text, n) (mem_dataLines_iff.2 hline)
      exact absurd hr (hno r)

end Dialect

namespace Table

variable {d : Dialect} {source : String} {records : List Record}

theorem ofSource_of_load (h : d.load source = .ok records) :
    ofSource d source = (build records).mapError .build := by
  rw [ofSource, h]

theorem ofSource_eq_row_iff {e : RowError} :
    ofSource d source = .error (.row e) ↔ d.load source = .error e := by
  rw [ofSource]
  cases d.load source with
  | error e' => simp
  | ok records => cases hb : build records <;> simp [hb, Except.mapError]

theorem ofSource_eq_ok_iff {t : Table} :
    ofSource d source = .ok t ↔ ∃ records, d.load source = .ok records ∧ build records = .ok t := by
  rw [ofSource]
  cases d.load source with
  | error e => simp
  | ok records => cases hb : build records <;> simp [hb, Except.mapError]

/-- A text is refused for a row just when a data line holds none. -/
theorem exists_row_error_iff :
    (∃ e, ofSource d source = .error (.row e)) ↔
      ∃ n text, d.DataLine source n text ∧ ∀ r, ¬ d.IsRow n text r := by
  simp only [ofSource_eq_row_iff]
  exact Dialect.exists_load_error_iff

theorem names_of_build {t : Table} (h : build records = .ok t) :
    t.names = records.map (·.name) := by
  rw [names, ← (represents_of_build h).1.map_record_toList, List.map_map]
  rfl

/-- **A refused repetition.** If all data lines hold rows but there is no table, the error names the
    first line that repeats, and the earlier line that it repeats: one with its name if there is any,
    otherwise one with its value. -/
theorem exists_build_error (h : d.load source = .ok records) (hlen : records.length < UInt32.size)
    (hno : ¬ ∃ t, ofSource d source = .ok t) :
    ∃ first second r s, d.RowAt source first r ∧ d.RowAt source second s ∧ first < second ∧
      (∀ n, d.Repeats source n → second ≤ n) ∧
      (r.name = s.name ∧
          ofSource d source = .error (.build (.duplicateName s.name first second)) ∨
        (∀ m q, m < second → d.RowAt source m q → q.name ≠ s.name) ∧ r.opcode = s.opcode ∧
          ofSource d source = .error (.build (.duplicateValue s.opcode first second))) := by
  cases hb : build records with
  | ok t => exact absurd ⟨t, ofSource_eq_ok_iff.2 ⟨records, h, hb⟩⟩ hno
  | error e =>
    have hsource : ofSource d source = .error (.build e) := by
      rw [ofSource_of_load h, hb]
      rfl
    have hasc := Dialect.pairwise_line_of_load h
    obtain ⟨earlier, s, later, rfl, hd, hc⟩ := clash_of_build hlen hb
    have hrow {q : Record} (hq : q ∈ earlier) : d.RowAt source q.line q ∧ q.line < s.line :=
      ⟨(Dialect.rowAt_iff_of_load h).2 ⟨by simp [hq], rfl⟩,
        (List.pairwise_append.1 hasc).2.2 q hq s (by simp)⟩
    have hs : d.RowAt source s.line s := (Dialect.rowAt_iff_of_load h).2 ⟨by simp, rfl⟩
    -- rows in front of `s` are among the earlier ones, which are distinct
    have hmin : ∀ n, d.Repeats source n → s.line ≤ n := by
      rintro n ⟨m, p, q, hmn, hp, hq, hshare⟩
      by_contra hlt
      obtain ⟨hpm, rfl⟩ := (Dialect.rowAt_iff_of_load h).1 hp
      obtain ⟨hqm, rfl⟩ := (Dialect.rowAt_iff_of_load h).1 hq
      have hdist := (distinct_iff_of_ascending (List.pairwise_append.1 hasc).1).1 hd p
        (mem_of_line_lt hasc hpm (by omega)) q (mem_of_line_lt hasc hqm (by omega)) hmn
      exact hshare.elim hdist.1 hdist.2
    cases hc with
    | @name first hfirst hname =>
      obtain ⟨hr, hlt⟩ := hrow hfirst
      exact ⟨first.line, s.line, first, s, hr, hs, hlt, hmin, Or.inl ⟨hname, hsource⟩⟩
    | @value first hnames hfirst hvalue =>
      obtain ⟨hr, hlt⟩ := hrow hfirst
      refine ⟨first.line, s.line, first, s, hr, hs, hlt, hmin, Or.inr ⟨?_, hvalue, hsource⟩⟩
      intro m q hm hq
      obtain ⟨hqm, rfl⟩ := (Dialect.rowAt_iff_of_load h).1 hq
      exact hnames q (mem_of_line_lt hasc hqm hm)

/-- **What becomes of a text.** It is refused for a row just when a data line holds none, whatever
    the other lines hold. If all data lines hold rows, there is a table just when no two of them share
    a name or a value, and its names are theirs in order. Otherwise the text is refused for the first
    line that repeats a name or a value, together with the earlier line of that name or, if there is
    none, of that value. -/
theorem ofSource_outcome (d : Dialect) (source : String)
    (hlen : (d.dataLines source).length < UInt32.size) :
    ((∃ e, ofSource d source = .error (.row e)) ↔
      ∃ n text, d.DataLine source n text ∧ ∀ r, ¬ d.IsRow n text r) ∧
    ((∀ n text, d.DataLine source n text → ∃ r, d.IsRow n text r) →
      ((∃ t, ofSource d source = .ok t) ↔
        ∀ m n r s, m < n → d.RowAt source m r → d.RowAt source n s →
          r.name ≠ s.name ∧ r.opcode ≠ s.opcode) ∧
      (∀ t, ofSource d source = .ok t →
        List.Forall₂ (fun p name => ∃ r, d.IsRow p.2 p.1 r ∧ r.name = name) (d.dataLines source)
          t.names) ∧
      ((¬ ∃ t, ofSource d source = .ok t) →
        ∃ first second r s, d.RowAt source first r ∧ d.RowAt source second s ∧ first < second ∧
          d.Repeats source second ∧ (∀ n, d.Repeats source n → second ≤ n) ∧
          (r.name = s.name ∧
              ofSource d source = .error (.build (.duplicateName s.name first second)) ∨
            (∀ m q, m < second → d.RowAt source m q → q.name ≠ s.name) ∧ r.opcode = s.opcode ∧
              ofSource d source = .error (.build (.duplicateValue s.opcode first second))))) := by
  refine ⟨exists_row_error_iff, fun hrows => ?_⟩
  obtain ⟨records, h⟩ := Dialect.exists_load_iff.2 fun p hp =>
    hrows p.2 p.1 (Dialect.mem_dataLines_iff.1 hp)
  have hforall := Dialect.load_eq_ok_iff.1 h
  have hcount : records.length < UInt32.size := hforall.length_eq ▸ hlen
  refine ⟨?_, ?_, ?_⟩
  · rw [← Dialect.distinct_iff_of_load h]
    constructor
    · rintro ⟨t, ht⟩
      obtain ⟨records', h', hb⟩ := ofSource_eq_ok_iff.1 ht
      obtain rfl := Except.ok.inj (h.symm.trans h')
      exact (build_eq_ok_iff.1 hb).2.1
    · intro hd
      exact ⟨_, ofSource_eq_ok_iff.2 ⟨records, h, build_eq_ok_iff.2 ⟨hcount, hd, rfl⟩⟩⟩
  · intro t ht
    obtain ⟨records', h', hb⟩ := ofSource_eq_ok_iff.1 ht
    obtain rfl := Except.ok.inj (h.symm.trans h')
    rw [names_of_build hb, List.forall₂_map_right_iff]
    exact hforall.imp fun p r hr => ⟨r, hr, rfl⟩
  · intro hno
    obtain ⟨first, second, r, s, hr, hs, hlt, hmin, herror⟩ := exists_build_error h hcount hno
    refine ⟨first, second, r, s, hr, hs, hlt, ⟨first, r, s, hlt, hr, hs, ?_⟩, hmin, herror⟩
    exact herror.imp (fun hname => hname.1) fun hvalue => hvalue.2.1

/-- The last row has the name of the first one and the value of the second one. -/
theorem ofSource_outcome_repeated :
    let d : Dialect := {}
    let source := "0,A,Z,N\n1,B,Z,N\n# again\n1,A,O,Y\n"
    (d.dataLines source).length < UInt32.size ∧ (¬ ∃ t, ofSource d source = .ok t) ∧
      ∃ first second, first < second ∧ second ≤ 4 ∧ ∃ e, ofSource d source = .error (.build e) := by
  intro d source
  have hlen : (d.dataLines source).length < UInt32.size := by decide
  have hload : d.load source = .ok [⟨0, "A", ⟨.zero, .zero⟩, none, 1⟩,
      ⟨1, "B", ⟨.zero, .zero⟩, none, 2⟩, ⟨1, "A", ⟨.one, .sign⟩, none, 4⟩] := by subst d source; rfl
  obtain ⟨hok, -, herror⟩ := (ofSource_outcome d source hlen).2 fun n text hline =>
    Dialect.exists_load_iff.1 ⟨_, hload⟩ (text, n) (Dialect.mem_dataLines_iff.2 hline)
  have hfirst := (Dialect.rowAt_iff_of_load hload).2 ⟨List.mem_cons_self, rfl⟩
  have hlast := (Dialect.rowAt_iff_of_load hload).2
    ⟨List.mem_cons_of_mem _ (List.mem_cons_of_mem _ List.mem_cons_self), rfl⟩
  have hno : ¬ ∃ t, ofSource d source = .ok t := fun ht =>
    (hok.1 ht 1 4 _ _ (by decide) hfirst hlast).1 rfl
  obtain ⟨first, second, r, s, -, -, hlt, -, hmin, he⟩ := herror hno
  refine ⟨hlen, hno, first, second, hlt, hmin 4 ⟨1, _, _, by decide, hfirst, hlast, Or.inl rfl⟩, ?_⟩
  exact he.elim (fun hname => ⟨_, hname.2⟩) fun hvalue => ⟨_, hvalue.2.2⟩

end Table

end IsaTable
