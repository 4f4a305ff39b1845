/-
  Errors about rows.

  Loading stops at the first line that has to hold a row and holds none. What is wrong with that line is
  decided by the line alone: the first check that fails, from its number of fields on.

  * `Columns.Faulty`, `Dialect.Faulty`: the first check that fields, or a line, do not pass.
  * `Dialect.readRow_eq_error_iff`: reading a line finds that check.
  * `mapM_eq_error_iff`: a traversal stops at the first step that fails.
  * `Dialect.load_eq_error_iff`: loading stops at the first line that holds no row.
  * `Dialect.load_append_eq_error_iff`: lines behind that one do not matter.
  * `Dialect.load_first_error`: when loading fails, and with which error.
-/
import IsaTable.Proofs.Growth

namespace IsaTable

/-! ## Faulty lines -/

/-- The first check that the fields of a row do not pass. -/
inductive Columns.Faulty (c : Columns) : RowFault → Prop
  | opcode : Opcode.ofLiteral? c.opcode = none → Faulty c (.opcode c.opcode)
  | name {v : Opcode} : Opcode.ofLiteral? c.opcode = some v → isName c.name = false →
      Faulty c (.name c.name)
  | arity {v : Opcode} : Opcode.ofLiteral? c.opcode = some v → isName c.name = true →
      (∀ a : Arity, c.arity ≠ a.token) → Faulty c (.arity c.arity)
  | extension {v : Opcode} {a : Arity} : Opcode.ofLiteral? c.opcode = some v → isName c.name = true →
      c.arity = a.token → (∀ x : Extension, c.extension ≠ x.token) → c.extension ≠ "x" →
      Faulty c (.extension c.extension)

/-- The first check that a line does not pass. It has one field more than delimiters. -/
inductive Dialect.Faulty (d : Dialect) (text : List Char) : RowFault → Prop
  | fieldCount : ¬ d.layout.Admits (text.count d.delimiter + 1) →
      Faulty d text (.fieldCount d.layout (text.count d.delimiter + 1))
  | columns {c : Columns} {fault : RowFault} : d.layout.Admits (text.count d.delimiter + 1) →
      d.fields text = c.fields → c.Faulty fault → Faulty d text fault

theorem Arity.ofToken?_eq_none_iff {t : String} : ofToken? t = none ↔ ∀ a : Arity, t ≠ a.token := by
  rw [Option.eq_none_iff_forall_ne_some]
  simp only [ne_eq, ofToken?_eq_some_iff]

theorem Extension.ofToken?_eq_none_iff {t : String} :
    ofToken? t = none ↔ (∀ x : Extension, t ≠ x.token) ∧ t ≠ "x" := by
  rw [Option.eq_none_iff_forall_ne_some]
  simp only [ne_eq, ofToken?_eq_some_iff, not_or, not_and]
  constructor
  · intro h
    exact ⟨fun x => (h x).1, fun hx => (h .zero).2 hx rfl⟩
  · rintro ⟨htoken, hx⟩ x
    exact ⟨htoken x, fun h => absurd h hx⟩

theorem Layout.columns?_eq_none_iff {l : Layout} {fs : List String} :
    l.columns? fs = none ↔ ¬ l.Admits fs.length := by
  rcases fs with _ | ⟨_, _ | ⟨_, _ | ⟨_, _ | ⟨_, _ | ⟨_, _ | ⟨_, rest⟩⟩⟩⟩⟩⟩
  all_goals cases l <;> simp [columns?, Admits]

/-- **The fields of a row are checked from left to right.** -/
theorem Columns.toRecord_eq_error_iff {c : Columns} {line : Nat} {fault : RowFault} :
    c.toRecord line = .error fault ↔ c.Faulty fault := by
  constructor
  · intro h
    unfold toRecord at h
    split at h
    next hopcode =>
      cases h
      exact .opcode hopcode
    next opcode hopcode =>
    split at h
    next hname =>
      split at h
      next harity =>
        cases h
        exact .arity hopcode hname (Arity.ofToken?_eq_none_iff.1 harity)
      next arity harity =>
      split at h
      next hextension =>
        cases h
        obtain ⟨htoken, hx⟩ := Extension.ofToken?_eq_none_iff.1 hextension
        exact .extension hopcode hname (Arity.ofToken?_eq_some_iff.1 harity) htoken hx
      · cases h
    next hname =>
      cases h
      exact .name hopcode (Bool.eq_false_iff.2 hname)
  · intro h
    cases h with
    | opcode hopcode => simp [toRecord, hopcode]
    | name hopcode hname => simp [toRecord, hopcode, hname]
    | arity hopcode hname harity =>
      simp [toRecord, hopcode, hname, Arity.ofToken?_eq_none_iff.2 harity]
    | extension hopcode hname harity htoken hx =>
      simp [toRecord, hopcode, hname, Arity.ofToken?_eq_some_iff.2 harity,
        Extension.ofToken?_eq_none_iff.2 ⟨htoken, hx⟩]

theorem length_splitOn {α : Type} [BEq α] (a : α) (xs : List α) :
    (xs.splitOn a).length = xs.count a + 1 := by
  induction xs with
  | nil => rfl
  | cons x xs ih =>
    rw [List.splitOn_cons_eq_if_modifyHead, List.count_cons]
    split
    · rw [List.length_cons, ih]
    · rw [List.length_modifyHead, ih]

namespace Dialect

variable {d : Dialect}

theorem length_fields (text : List Char) : (d.fields text).length = text.count d.delimiter + 1 := by
  rw [fields, List.length_map, length_splitOn]

/-- **Reading a line finds the first check that it does not pass.** -/
theorem readRow_eq_error_iff {line : Nat} {text : List Char} {e : RowError} :
    d.readRow line text = .error e ↔ e.line = line ∧ d.Faulty text e.fault := by
  obtain ⟨line', fault⟩ := e
  simp only [readRow]
  cases hc : d.layout.columns? (d.fields text) with
  | none =>
    have hcount := Layout.columns?_eq_none_iff.1 hc
    rw [length_fields] at hcount
    simp only [length_fields, Except.error.injEq, RowError.mk.injEq]
    constructor
    · rintro ⟨rfl, rfl⟩
      exact ⟨rfl, .fieldCount hcount⟩
    · rintro ⟨rfl, hfaulty⟩
      cases hfaulty with
      | fieldCount => exact ⟨rfl, rfl⟩
      | columns hadmits => exact absurd hadmits hcount
  | some c =>
    obtain ⟨hadmits, hfields⟩ := Layout.columns?_eq_some_iff.1 hc
    rw [length_fields] at hadmits
    have hmap : (c.toRecord line).mapError (RowError.mk line) = .error ⟨line', fault⟩ ↔
        line' = line ∧ c.toRecord line = .error fault := by
      cases c.toRecord line <;> simp [Except.mapError, eq_comm]
    rw [hmap, Columns.toRecord_eq_error_iff]
    refine and_congr_right fun _ => ⟨.columns hadmits hfields, fun hfaulty => ?_⟩
    cases hfaulty with
    | fieldCount hcount => exact absurd hadmits hcount
    | columns _ hfields' hfaulty =>
      rw [← length_fields] at hadmits
      rw [Layout.columns?_eq_some_iff.2 ⟨hadmits, hfields'⟩] at hc
      obtain rfl := Option.some.inj hc
      exact hfaulty

end Dialect

/-! ## The first faulty line -/

/-- **A traversal stops at the first step that fails.** -/
theorem mapM_eq_error_iff {ε α β : Type} {f : α → Except ε β} {xs : List α} {e : ε} :
    xs.mapM f = .error e ↔ ∃ before x after, xs = before ++ x :: after ∧
      (∀ y ∈ before, ∃ b, f y = .ok b) ∧ f x = .error e := by
  constructor
  · intro h
    induction xs with
    | nil => cases h
    | cons x xs ih =>
      rw [List.mapM_cons] at h
      rcases hx : f x with e' | b
      · rw [hx] at h
        cases h
        exact ⟨[], x, xs, rfl, by simp, hx⟩
      rcases hxs : xs.mapM f with e' | bs
      · rw [hx, hxs] at h
        cases h
        obtain ⟨before, y, after, rfl, hbefore, hy⟩ := ih hxs
        exact ⟨x :: before, y, after, rfl, List.forall_mem_cons.2 ⟨⟨b, hx⟩, hbefore⟩, hy⟩
      · rw [hx, hxs] at h
        cases h
  · rintro ⟨before, x, after, rfl, hbefore, hx⟩
    obtain ⟨bs, hbs⟩ := exists_mapM_ok_iff.2 hbefore
    rw [List.mapM_append, hbs, List.mapM_cons, hx]
    rfl

namespace Dialect

variable {d : Dialect} {source a : String} {n : Nat} {text : List Char} {e : RowError}

/-- **Loading stops at the first line that holds no row.** -/
theorem load_eq_error_iff :
    d.load source = .error e ↔ ∃ text, d.DataLine source e.line text ∧ d.Faulty text e.fault ∧
      ∀ m < e.line, ∀ other, d.DataLine source m other → ∃ r, d.IsRow m other r := by
  have hasc : (d.dataLines source).Pairwise fun p q => p.2 < q.2 := pairwise_dataLines
  simp only [load, mapM_eq_error_iff, ← mem_dataLines_iff]
  constructor
  · rintro ⟨before, ⟨text, line⟩, after, hlines, hbefore, hx⟩
    obtain ⟨rfl, hfaulty⟩ := readRow_eq_error_iff.1 hx
    rw [hlines] at hasc ⊢
    refine ⟨text, by simp, hfaulty, fun m hm other hother => ?_⟩
    obtain ⟨r, hr⟩ := hbefore _ (mem_of_line_lt hasc hother hm)
    exact ⟨r, readRow_eq_ok_iff.1 hr⟩
  · rintro ⟨text, htext, hfaulty, hrows⟩
    obtain ⟨before, after, hlines⟩ := List.append_of_mem htext
    rw [hlines] at hasc
    refine ⟨before, (text, e.line), after, hlines, fun p hp => ?_, readRow_eq_error_iff.2 ⟨rfl, hfaulty⟩⟩
    have hlt : p.2 < e.line := (List.pairwise_append.1 hasc).2.2 p hp _ List.mem_cons_self
    obtain ⟨r, hr⟩ := hrows p.2 hlt p.1 (hlines ▸ List.mem_append_left _ hp)
    exact ⟨r, readRow_eq_ok_iff.2 hr⟩

/-! ## Lines behind it -/

/-- The lines at the beginning of a text do not depend on how it goes on. -/
theorem dataLine_append_iff (ha : EndsLine a) (b : String) (hn : n ≤ a.toList.count '\n') :
    d.DataLine (a ++ b) n text ↔ d.DataLine a n text := by
  obtain ⟨later, hlines⟩ := specLines_prefix ha b
  rw [← length_specLines ha] at hn
  rw [← mem_dataLines_iff, ← mem_dataLines_iff, dataLines, dataLines, ← hlines, List.mem_filter,
    List.mem_filter, List.mk_mem_zipIdx_iff_le_and_getElem?_sub,
    List.mk_mem_zipIdx_iff_le_and_getElem?_sub]
  refine and_congr_left fun _ => and_congr_right fun hpos => ?_
  rw [List.getElem?_append_left (by omega)]

/-- **Lines behind the first that holds no row do not matter.** -/
theorem load_append_eq_error_iff (ha : EndsLine a) (b : String) (he : e.line ≤ a.toList.count '\n') :
    d.load (a ++ b) = .error e ↔ d.load a = .error e := by
  rw [load_eq_error_iff, load_eq_error_iff]
  refine exists_congr fun text => and_congr (dataLine_append_iff ha b he) (and_congr_right fun _ => ?_)
  refine forall₂_congr fun m hm => forall_congr' fun other => ?_
  have hm : m ≤ a.toList.count '\n' := by omega
  rw [dataLine_append_iff ha b hm]

/-- **The error about a text.** Loading fails just when a line that is neither blank nor a comment holds
    no row. The error is about the first such line: it has the number of that line and names the first
    check that the line does not pass. Up to the end of that line, the text decides the error, however it
    goes on. -/
theorem load_first_error (d : Dialect) (source : String) :
    ((∃ e, d.load source = .error e) ↔
      ∃ n text, d.DataLine source n text ∧ ∀ r, ¬ d.IsRow n text r) ∧
    (∀ e, d.load source = .error e ↔
      ∃ text, d.DataLine source e.line text ∧ d.Faulty text e.fault ∧
        ∀ m < e.line, ∀ other, d.DataLine source m other → ∃ r, d.IsRow m other r) ∧
    ∀ e a b, source = a ++ b → EndsLine a → e.line ≤ a.toList.count '\n' →
      d.load source = .error e → ∀ rest, d.load (a ++ rest) = .error e := by
  refine ⟨exists_load_error_iff, fun e => load_eq_error_iff, ?_⟩
  rintro e a b rfl ha he hload rest
  have hbeginning := (load_append_eq_error_iff ha b he).1 hload
  exact (load_append_eq_error_iff ha rest he).2 hbeginning

/-- The third line has a faulty name and a faulty arity. -/
theorem load_first_error_name :
    let d : Dialect := {}
    let a := "\uFEFF# c\n0,A,Z,N\n1, B; ,Q,N\n"
    EndsLine a ∧ ∀ rest, d.load (a ++ rest) = .error ⟨3, .name "B;"⟩ := by
  intro d a
  have ha : EndsLine a := by decide
  have hload : d.load a = .error ⟨3, .name "B;"⟩ := by
    subst d a
    rfl
  exact ⟨ha, (load_first_error d a).2.2 _ a "" (by simp) ha (by decide) hload⟩

end Dialect

end IsaTable
