/-
  Summaries of checked specifications.

  A check counts the opcodes of a table. Since each data line gives one opcode, and each opcode comes from one
  data line, the counts can be found in the text itself.

  * `Dialect.countRows`: the data lines with a property of their fields.
  * `Dialect.IsRow.arity_iff`, `Dialect.IsRow.extension_iff`: what the fields of a row tell of its shape.
  * `Table.counts_of_ofSource`: the opcodes of a table are counted by the data lines of its text.
  * `Command.run_check`: what a check prints and tells of a table.
  * `Command.run_check_summary`: what it prints and tells of a text.
-/
import IsaTable.Proofs.Loaded
import IsaTable.Proofs.Runs

namespace IsaTable

/-! ## Data lines -/

/-- What is related item by item has equal counts of what the relation does not tell apart. -/
theorem countP_eq_of_forall₂ {α β : Type} {R : α → β → Prop} {p : α → Bool} {q : β → Bool} {xs : List α}
    {ys : List β} (h : List.Forall₂ R xs ys) (hpq : ∀ x y, R x y → p x = q y) :
    xs.countP p = ys.countP q := by
  induction h with
  | nil => rfl
  | cons hxy _ ih => rw [List.countP_cons, List.countP_cons, ih, hpq _ _ hxy]

theorem Arity.token_inj {a b : Arity} (h : a.token = b.token) : a = b := by
  have hread := ofToken?_eq_some_iff.2 h
  rw [ofToken?_eq_some_iff.2 rfl] at hread
  exact Option.some.inj hread

namespace Dialect

/-- The number of data lines whose fields have a property. -/
def countRows (d : Dialect) (source : String) (p : List String → Bool) : Nat :=
  ((specLines source).filter d.isData).countP fun text => p (d.fields text)

variable {d : Dialect} {source : String} {n : Nat} {text : List Char} {r : Record}

theorem countP_dataLines (p : List String → Bool) :
    (d.dataLines source).countP (fun line => p (d.fields line.1)) = d.countRows source p := by
  rw [countRows, ← map_fst_dataLines, List.countP_map]
  rfl

/-- The third field of a row tells the arity. -/
theorem IsRow.arity_iff (h : d.IsRow n text r) (a : Arity) :
    (d.fields text)[2]? = some a.token ↔ r.shape.arity = a := by
  obtain ⟨-, c, hfields, hc, -⟩ := h
  have hthird : (d.fields text)[2]? = some r.shape.arity.token := by
    rw [hfields, ← hc.arity]
    rfl
  rw [hthird, Option.some.injEq]
  constructor
  · exact Arity.token_inj
  · rintro rfl
    rfl

/-- The fourth field of a row tells whether the immediate is signed. -/
theorem IsRow.extension_iff (h : d.IsRow n text r) :
    (d.fields text)[3]? = some "Y" ↔ r.shape.extension.isSigned = true := by
  obtain ⟨-, c, hfields, hc, -⟩ := h
  have hfourth : (d.fields text)[3]? = some c.extension := by
    rw [hfields]
    rfl
  rw [hfourth, Option.some.injEq]
  rcases hc.extension with htoken | ⟨hx, hzero⟩
  · rw [htoken]
    cases r.shape.extension <;> decide
  · rw [hx, hzero]
    decide

/-- Records are counted by the lines that they come from. -/
theorem countP_of_load {records : List Record} (h : d.load source = .ok records)
    {p : List String → Bool} {q : Record → Bool}
    (hpq : ∀ n text r, d.IsRow n text r → p (d.fields text) = q r) :
    records.countP q = d.countRows source p := by
  rw [← countP_dataLines]
  exact (countP_eq_of_forall₂ (load_eq_ok_iff.1 h) fun line r hr => hpq line.2 line.1 r hr).symm

end Dialect

/-! ## Tables -/

namespace Table

variable {d : Dialect} {source : String} {t : Table}

/-- Each opcode has one of three arities. -/
theorem countArity_add (t : Table) : t.countArity .zero + t.countArity .one + t.countArity .two = t.size := by
  have hcount (es : List Entry) :
      es.countP (·.record.shape.arity = .zero) + es.countP (·.record.shape.arity = .one) +
        es.countP (·.record.shape.arity = .two) = es.length := by
    induction es with
    | nil => rfl
    | cons e es ih =>
      simp only [List.countP_cons, List.length_cons]
      cases e.record.shape.arity <;> simp <;> omega
  exact hcount t.toList

/-- **The opcodes of a table are counted by the data lines of its text.** -/
theorem counts_of_ofSource (h : ofSource d source = .ok t) :
    t.size = (specLines source).countP d.isData ∧
      (∀ a : Arity, t.countArity a = d.countRows source fun fields => fields[2]? = some a.token) ∧
      t.countSigned = d.countRows source fun fields => fields[3]? = some "Y" := by
  obtain ⟨records, hload, hbuild⟩ := ofSource_eq_ok_iff.1 h
  have ht := (represents_of_build hbuild).1
  have hrecords (q : Record → Bool) : t.toList.countP (fun e => q e.record) = records.countP q := by
    rw [← ht.map_record_toList, List.countP_map]
    rfl
  refine ⟨?_, fun a => ?_, ?_⟩
  · rw [ht.size_eq, (Dialect.load_eq_ok_iff.1 hload).length_eq.symm, Dialect.length_dataLines]
  · refine (hrecords (·.shape.arity = a)).trans (Dialect.countP_of_load hload fun n text r hr => ?_)
    rw [decide_eq_decide]
    exact hr.arity_iff a
  · refine (hrecords (·.shape.extension.isSigned)).trans (Dialect.countP_of_load hload fun n text r hr => ?_)
    rw [Bool.eq_iff_iff, decide_eq_true_iff]
    exact hr.extension_iff

end Table

/-! ## Checks -/

theorem Report.events_bind_of_ok {ε α β : Type} {r : Report ε α} {a : α} (h : r.result = .ok a)
    (g : α → Report ε β) : (r >>= g).events = r.events ++ (g a).events := by
  obtain ⟨events, result⟩ := r
  obtain rfl : result = .ok a := h
  rfl

namespace Command

variable {c : Command} {disk : Disk} {source : String} {t : Table}

/-- **What a check prints and tells of a table.** -/
theorem run_check (haction : c.action = .check) (hfile : disk.read c.path = .ok source.toUTF8)
    (ht : Table.ofSource c.dialect source = .ok t) :
    (c.run disk).result = .ok () ∧ (c.run disk).stdout = Text.decimal t.size ++ "\n" ∧
      (c.run disk).events.getLast? = some ⟨.info, c.path ++ ": " ++ t.summary⟩ := by
  have hresult : (c.evaluate (disk.read c.path)).result = .ok (.print (Text.decimal t.size ++ "\n")) := by
    rw [hfile, result_evaluate_of_ofSource ht, perform, haction]
  have hevents : (c.evaluate (disk.read c.path)).events =
      (c.table (.ok source.toUTF8)).events ++ [⟨.info, c.path ++ ": " ++ t.summary⟩] := by
    rw [hfile, evaluate, Report.events_bind_of_ok (result_table ht), perform, haction]
  have hrun : (c.run disk).events = (c.evaluate (disk.read c.path)).events := by
    simp only [run, hresult]
  obtain ⟨hok, hstdout, -⟩ := run_of_print hresult
  refine ⟨hok, hstdout, ?_⟩
  rw [hrun, hevents, List.getLast?_concat]

/-- A check succeeds just when the text has a table. -/
theorem result_run_check_iff (haction : c.action = .check) (hfile : disk.read c.path = .ok source.toUTF8) :
    (c.run disk).result = .ok () ↔ ∃ t, Table.ofSource c.dialect source = .ok t := by
  constructor
  · intro hok
    cases ht : Table.ofSource c.dialect source with
    | ok t => exact ⟨t, rfl⟩
    | error e =>
      have hresult : (c.evaluate (disk.read c.path)).result = .error (.invalid c.path e) := by
        rw [hfile, evaluate, Report.result_bind]
        simp only [table, Command.source, fromUTF8?_toUTF8, Report.result_bind, Report.result_mapError,
          Table.result_ofSourceReport, Except.bind, ht]
        rfl
      rw [(run_of_error hresult).1] at hok
      cases hok
  · rintro ⟨t, ht⟩
    exact (run_check haction hfile ht).1

/-- **The summary of a check adds up.** A check succeeds just when the text has a table. It then prints how many
    lines of the text are neither blank nor comments. What it tells of them last are the numbers of those with
    each of the three arities in their third field, which add up to all of them, and of those with the
    letter of sign extension in their fourth. -/
theorem run_check_summary (haction : c.action = .check) (hfile : disk.read c.path = .ok source.toUTF8) :
    let total := (specLines source).countP fun text => !Dialect.isBlankLine text && !c.dialect.isComment text
    let rows (i : Nat) (token : String) := c.dialect.countRows source fun fields => fields[i]? = some token
    ((c.run disk).result = .ok () ↔ ∃ t, Table.ofSource c.dialect source = .ok t) ∧
    ((c.run disk).result = .ok () →
      (c.run disk).stdout = Text.decimal total ++ "\n" ∧
      (c.run disk).events.getLast? = some
        { level := .info
          message := c.path ++ ": " ++ (Text.decimal total ++ " opcodes (" ++
            Text.decimal (rows 2 "Z") ++ " zero-reg, " ++ Text.decimal (rows 2 "O") ++ " one-reg, " ++
            Text.decimal (rows 2 "T") ++ " two-reg, " ++ Text.decimal (rows 3 "Y") ++
            " sign-extended)") } ∧
      rows 2 "Z" + rows 2 "O" + rows 2 "T" = total) := by
  intro total rows
  have hiff := result_run_check_iff haction hfile
  refine ⟨hiff, fun hok => ?_⟩
  obtain ⟨t, ht⟩ := hiff.1 hok
  obtain ⟨hsize, harity, hsigned⟩ := Table.counts_of_ofSource ht
  have hzero : t.countArity .zero = rows 2 "Z" := harity .zero
  have hone : t.countArity .one = rows 2 "O" := harity .one
  have htwo : t.countArity .two = rows 2 "T" := harity .two
  have htotal : t.size = total := hsize
  obtain ⟨-, hstdout, hevent⟩ := run_check haction hfile ht
  rw [Table.summary, htotal, hzero, hone, htwo, hsigned] at hevent
  refine ⟨by rw [hstdout, htotal], hevent, ?_⟩
  rw [← hzero, ← hone, ← htwo, ← htotal]
  exact t.countArity_add

/-- A comment, a blank line, and three rows with fields between blanks. -/
theorem run_check_summary_blanks :
    let source := "# c\n0, A, Z ,x\n \t\n1,B,T, Y ,note\n2,C,Z,N\n"
    let disk : Disk := .ofFiles [("a.csv", source.toUTF8)]
    let c : Command := ⟨0, "./a.csv", {}, .check⟩
    disk.read "./a.csv" = .ok source.toUTF8 ∧ (c.run disk).result = .ok () ∧
      (c.run disk).stdout = Text.decimal 3 ++ "\n" ∧
      c.dialect.countRows source (fun fields => fields[2]? = some "Z") = 2 := by
  intro source disk c
  let a : Record := ⟨0, "A", ⟨.zero, .zero⟩, none, 2⟩
  let b : Record := ⟨1, "B", ⟨.two, .sign⟩, some "note", 4⟩
  let last : Record := ⟨2, "C", ⟨.zero, .zero⟩, none, 5⟩
  have hload : c.dialect.load source = .ok [a, b, last] := by subst source c; rfl
  have hbuild : Table.build [a, b, last] = .ok _ :=
    Table.build_eq_ok_iff.2 ⟨by decide, by decide, rfl⟩
  have ht := Table.ofSource_eq_ok_iff.2 ⟨_, hload, hbuild⟩
  have hfile : disk.read "./a.csv" = .ok source.toUTF8 := rfl
  obtain ⟨hiff, hsummary⟩ := run_check_summary (c := c) rfl hfile
  have hok := hiff.2 ⟨_, ht⟩
  obtain ⟨hstdout, -, -⟩ := hsummary hok
  have htotal : ((specLines source).countP fun text =>
      !Dialect.isBlankLine text && !c.dialect.isComment text) = 3 := by
    subst source c
    rfl
  rw [htotal] at hstdout
  exact ⟨hfile, hok, hstdout, by subst source c; rfl⟩

end Command

end IsaTable
