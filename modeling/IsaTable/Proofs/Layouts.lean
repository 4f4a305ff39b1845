/-
  Layouts as restrictions.

  A fixed layout asks for one number of fields, the free one for either. All else is read in the same way,
  so a fixed layout gives what the free one gives, or it stops at a row with another number of fields before
  the free one would.

  * `Dialect.withLayout`: a dialect with another layout.
  * `Dialect.isRow_withLayout_iff`, `Dialect.faulty_withLayout_iff`: what the layout decides about a line.
  * `Dialect.load_withLayout_eq_ok_iff`: where a layout succeeds.
  * `Dialect.load_withLayout_eq_error`, `Dialect.line_le_of_load_withLayout`: where it fails.
  * `Dialect.load_fixed_layouts`: the fixed layouts as restrictions of the free one.
-/
import IsaTable.Proofs.RowErrors

namespace IsaTable

theorem Layout.Admits.any {l : Layout} {n : Nat} (h : l.Admits n) : Layout.any.Admits n := by
  cases l with
  | any => exact h
  | compact => exact Or.inl h
  | annotated => exact Or.inr h

namespace Dialect

/-- A dialect with another layout. -/
def withLayout (d : Dialect) (l : Layout) : Dialect :=
  { d with layout := l }

/-- All data lines of a text have so many fields. -/
def Uniform (d : Dialect) (source : String) (width : Nat) : Prop :=
  ∀ n text, d.DataLine source n text → (d.fields text).length = width

variable {d : Dialect} {l : Layout} {source : String} {n : Nat} {text : List Char}

theorem dataLines_withLayout : (d.withLayout l).dataLines source = d.dataLines source := rfl

/-! ## Lines -/

/-- A line holds the row that it holds in the free layout, if the layout admits its fields. -/
theorem isRow_withLayout_iff {r : Record} :
    (d.withLayout l).IsRow n text r ↔
      l.Admits (d.fields text).length ∧ (d.withLayout .any).IsRow n text r := by
  constructor
  · rintro ⟨hadmits, hrow⟩
    exact ⟨hadmits, hadmits.any, hrow⟩
  · rintro ⟨hadmits, -, hrow⟩
    exact ⟨hadmits, hrow⟩

/-- A line has the fault that it has in the free layout, if the layout admits its fields. Otherwise their
    number is the fault. -/
theorem faulty_withLayout_iff {fault : RowFault} :
    (d.withLayout l).Faulty text fault ↔
      l.Admits (d.fields text).length ∧ (d.withLayout .any).Faulty text fault ∨
        ¬ l.Admits (d.fields text).length ∧ fault = .fieldCount l (d.fields text).length := by
  rw [length_fields]
  constructor
  · intro h
    cases h with
    | fieldCount hcount => exact Or.inr ⟨hcount, rfl⟩
    | columns hadmits hfields hfault =>
      exact Or.inl ⟨hadmits, .columns hadmits.any hfields hfault⟩
  · rintro (⟨hadmits, h⟩ | ⟨hcount, rfl⟩)
    · cases h with
      | fieldCount hcount => exact absurd hadmits.any hcount
      | columns _ hfields hfault => exact .columns hadmits hfields hfault
    · exact .fieldCount hcount

/-- A faulty line holds no row. -/
theorem Faulty.not_isRow {fault : RowFault} {r : Record} (h : d.Faulty text fault) :
    ¬ d.IsRow n text r := by
  intro hr
  have herror : d.readRow n text = .error ⟨n, fault⟩ := readRow_eq_error_iff.2 ⟨rfl, h⟩
  rw [readRow_eq_ok_iff.2 hr] at herror
  cases herror

/-! ## Texts -/

/-- **Where a layout succeeds,** the free one gives the same records, and the layout admits the fields of all
    data lines. -/
theorem load_withLayout_eq_ok_iff {records : List Record} :
    (d.withLayout l).load source = .ok records ↔
      (d.withLayout .any).load source = .ok records ∧
        ∀ n text, d.DataLine source n text → l.Admits (d.fields text).length := by
  have hlines : (∀ p ∈ d.dataLines source, l.Admits (d.fields p.1).length) ↔
      ∀ n text, d.DataLine source n text → l.Admits (d.fields text).length := by
    simp only [← mem_dataLines_iff, Prod.forall]
    exact forall_comm
  rw [load_eq_ok_iff, load_eq_ok_iff, dataLines_withLayout, dataLines_withLayout, ← hlines, and_comm,
    ← List.forall₂_and_left]
  simp only [isRow_withLayout_iff (l := l)]

/-- **Where a layout fails,** the free one fails with the same error, or the fields of the line are not
    admitted. -/
theorem load_withLayout_eq_error {e : RowError} (h : (d.withLayout l).load source = .error e) :
    (d.withLayout .any).load source = .error e ∨
      ∃ text, d.DataLine source e.line text ∧ ¬ l.Admits (d.fields text).length ∧
        e.fault = .fieldCount l (d.fields text).length := by
  obtain ⟨text, hline, hfaulty, hrows⟩ := load_eq_error_iff.1 h
  rcases faulty_withLayout_iff.1 hfaulty with ⟨-, hany⟩ | ⟨hno, hfault⟩
  · refine Or.inl (load_eq_error_iff.2 ⟨text, hline, hany, ?_⟩)
    intro m hm other hother
    obtain ⟨r, hr⟩ := hrows m hm other hother
    exact ⟨r, (isRow_withLayout_iff.1 hr).2⟩
  · exact Or.inr ⟨text, hline, hno, hfault⟩

/-- **No layout goes on behind a line at which the free one fails.** -/
theorem line_le_of_load_withLayout {e e' : RowError} (h : (d.withLayout .any).load source = .error e)
    (h' : (d.withLayout l).load source = .error e') : e'.line ≤ e.line := by
  obtain ⟨text, hline, hfaulty, -⟩ := load_eq_error_iff.1 h
  obtain ⟨-, -, -, hrows⟩ := load_eq_error_iff.1 h'
  by_contra hlt
  obtain ⟨r, hr⟩ := hrows e.line (by omega) text hline
  exact hfaulty.not_isRow (isRow_withLayout_iff.1 hr).2

theorem exists_load_withLayout_error {e : RowError} (h : (d.withLayout .any).load source = .error e)
    (l : Layout) :
    ∃ e', (d.withLayout l).load source = .error e' ∧ e'.line ≤ e.line ∧
      (e' = e ∨ ∃ text, d.DataLine source e'.line text ∧ ¬ l.Admits (d.fields text).length ∧
        e'.fault = .fieldCount l (d.fields text).length) := by
  cases h' : (d.withLayout l).load source with
  | ok records =>
    rw [(load_withLayout_eq_ok_iff.1 h').1] at h
    cases h
  | error e' =>
    refine ⟨e', rfl, line_le_of_load_withLayout h h', ?_⟩
    rcases load_withLayout_eq_error h' with hsame | hfields
    · rw [h] at hsame
      exact Or.inl (Except.error.inj hsame).symm
    · exact Or.inr hfields

/-- **The fixed layouts are restrictions of the free one.** The compact one loads a text just when the free one
    does and all data lines have four fields, the annotated one just when they have five, and both give the
    records of the free one. So both of them load a text just when it has no data lines. Where the free one
    fails, every layout fails at that line or before: with the same error, or about a number of fields that
    it does not admit. -/
theorem load_fixed_layouts (d : Dialect) (source : String) :
    (∀ records, (d.withLayout .compact).load source = .ok records ↔
      (d.withLayout .any).load source = .ok records ∧ d.Uniform source 4) ∧
    (∀ records, (d.withLayout .annotated).load source = .ok records ↔
      (d.withLayout .any).load source = .ok records ∧ d.Uniform source 5) ∧
    ((∃ records, (d.withLayout .compact).load source = .ok records) ∧
        (∃ records, (d.withLayout .annotated).load source = .ok records) ↔
      ∀ n text, ¬ d.DataLine source n text) ∧
    ∀ e, (d.withLayout .any).load source = .error e → ∀ l : Layout,
      ∃ e', (d.withLayout l).load source = .error e' ∧ e'.line ≤ e.line ∧
        (e' = e ∨ ∃ text, d.DataLine source e'.line text ∧ ¬ l.Admits (d.fields text).length ∧
          e'.fault = .fieldCount l (d.fields text).length) := by
  have hcompact (records : List Record) : (d.withLayout .compact).load source = .ok records ↔
      (d.withLayout .any).load source = .ok records ∧ d.Uniform source 4 := load_withLayout_eq_ok_iff
  have hannotated (records : List Record) : (d.withLayout .annotated).load source = .ok records ↔
      (d.withLayout .any).load source = .ok records ∧ d.Uniform source 5 := load_withLayout_eq_ok_iff
  refine ⟨hcompact, hannotated, ?_, fun e => exists_load_withLayout_error⟩
  constructor
  · rintro ⟨⟨records, hc⟩, ⟨records', ha⟩⟩ n text hline
    have hfour := ((hcompact records).1 hc).2 n text hline
    have hfive := ((hannotated records').1 ha).2 n text hline
    omega
  · intro hno
    have hnil : d.dataLines source = [] :=
      List.eq_nil_iff_forall_not_mem.2 fun p hp => hno p.2 p.1 (mem_dataLines_iff.1 hp)
    constructor
    · refine ⟨[], load_eq_ok_iff.2 ?_⟩
      rw [dataLines_withLayout, hnil]
      exact .nil
    · refine ⟨[], load_eq_ok_iff.2 ?_⟩
      rw [dataLines_withLayout, hnil]
      exact .nil

/-- Rows with four and with five fields, and a third one with a faulty arity. -/
theorem load_fixed_layouts_mixed :
    let d : Dialect := { comment := ';' }
    let source := "; c\n0,A,Z,N\n1,B,Z,N,note\n\n2,C,Q,N\n"
    (d.withLayout .any).load source = .error ⟨5, .arity "Q"⟩ ∧
      (d.withLayout .compact).load source = .error ⟨3, .fieldCount .compact 5⟩ ∧
      (∀ l : Layout, ∃ e, (d.withLayout l).load source = .error e ∧ e.line ≤ 5) ∧
      ∀ records, ¬ (d.withLayout .annotated).load source = .ok records := by
  intro d source
  have hany : (d.withLayout .any).load source = .error ⟨5, .arity "Q"⟩ := by
    subst d source
    rfl
  have hcompact : (d.withLayout .compact).load source = .error ⟨3, .fieldCount .compact 5⟩ := by
    subst d source
    rfl
  obtain ⟨-, hannotated, -, herror⟩ := load_fixed_layouts d source
  refine ⟨hany, hcompact, fun l => ?_, fun records hload => ?_⟩
  · obtain ⟨e, he, hle, -⟩ := herror _ hany l
    exact ⟨e, he, hle⟩
  · rw [((hannotated records).1 hload).1] at hany
    cases hany

end Dialect

end IsaTable
