/-
  Queries by name and by value.

  A query goes from its arguments to the line that it prints: by name through one index of the table, by
  value through a literal and the other index. Both find the same opcode, and they fail for what no row of
  the specification lists.

  * `Dialect.ListsName`, `Dialect.ListsValue`: what the rows of a text list.
  * `Entry.describe_inj`, `Table.eq_of_describe_eq`: the line of an opcode tells its name, and so tells
    which opcode of a table it is.
  * `Program.run_query`: what a process shows of a query.
  * `Program.query_agrees`: queries by name and by value of one opcode.
-/
import IsaTable.Proofs.CommandLines
import IsaTable.Proofs.Runs
import IsaTable.Proofs.SameText
import IsaTable.Proofs.Search

namespace IsaTable

namespace Dialect

/-- A data line of a text has the given name in its second field. -/
def ListsName (d : Dialect) (source : String) (name : String) : Prop :=
  ∃ n text, d.DataLine source n text ∧ (d.fields text)[1]? = some name

/-- A data line of a text has a literal of the given value in its first field. -/
def ListsValue (d : Dialect) (source : String) (value : Opcode) : Prop :=
  ∃ n text literal, d.DataLine source n text ∧ (d.fields text)[0]? = some literal ∧
    Opcode.ofLiteral? literal = some value

variable {d : Dialect} {source : String} {records : List Record}

theorem exists_row_of_dataLine (h : d.load source = .ok records) {n : Nat} {text : List Char}
    (hline : d.DataLine source n text) : ∃ r ∈ records, d.IsRow n text r := by
  obtain ⟨r, hr⟩ := exists_load_iff.1 ⟨records, h⟩ (text, n) (mem_dataLines_iff.2 hline)
  exact ⟨r, ((rowAt_iff_of_load h).1 ⟨text, hline, hr⟩).1, hr⟩

theorem listsName_iff_of_load (h : d.load source = .ok records) {name : String} :
    d.ListsName source name ↔ ∃ r ∈ records, r.name = name := by
  constructor
  · rintro ⟨n, text, hline, hfield⟩
    obtain ⟨r, hr, -, c, hfields, hc, -⟩ := exists_row_of_dataLine h hline
    rw [hfields] at hfield
    exact ⟨r, hr, hc.name.symm.trans (Option.some.inj hfield)⟩
  · rintro ⟨r, hr, rfl⟩
    obtain ⟨text, hline, -, c, hfields, hc, -⟩ := (rowAt_iff_of_load h).2 ⟨hr, rfl⟩
    refine ⟨r.line, text, hline, ?_⟩
    rw [hfields, ← hc.name]
    rfl

theorem listsValue_iff_of_load (h : d.load source = .ok records) {value : Opcode} :
    d.ListsValue source value ↔ ∃ r ∈ records, r.opcode = value := by
  constructor
  · rintro ⟨n, text, literal, hline, hfield, hliteral⟩
    obtain ⟨r, hr, -, c, hfields, hc, -⟩ := exists_row_of_dataLine h hline
    rw [hfields] at hfield
    obtain rfl : c.opcode = literal := Option.some.inj hfield
    rw [hc.opcode] at hliteral
    exact ⟨r, hr, Option.some.inj hliteral⟩
  · rintro ⟨r, hr, rfl⟩
    obtain ⟨text, hline, -, c, hfields, hc, -⟩ := (rowAt_iff_of_load h).2 ⟨hr, rfl⟩
    refine ⟨r.line, text, c.opcode, hline, ?_, hc.opcode⟩
    rw [hfields]
    rfl

end Dialect

namespace Table

variable {d : Dialect} {source : String} {t : Table}

/-- A table has no opcode of a name just when no row of its text has that name. -/
theorem entry?_eq_none_iff_of_ofSource (h : ofSource d source = .ok t) {name : String} :
    t.entry? name = none ↔ ¬ d.ListsName source name := by
  obtain ⟨records, hload, hbuild⟩ := ofSource_eq_ok_iff.1 h
  rw [(represents_of_build hbuild).1.entry?_eq_none_iff, Dialect.listsName_iff_of_load hload]
  simp

/-- It has no opcode of a value just when no row has a literal of that value. -/
theorem entryOfValue?_eq_none_iff_of_ofSource (h : ofSource d source = .ok t) {value : Opcode} :
    t.entryOfValue? value = none ↔ ¬ d.ListsValue source value := by
  obtain ⟨records, hload, hbuild⟩ := ofSource_eq_ok_iff.1 h
  rw [(represents_of_build hbuild).1.entryOfValue?_eq_none_iff, Dialect.listsValue_iff_of_load hload]
  simp

theorem isName_of_ofSource (h : ofSource d source = .ok t) {e : Entry} (he : e ∈ t.toList) :
    isName e.record.name = true := by
  obtain ⟨records, hload, hbuild⟩ := ofSource_eq_ok_iff.1 h
  obtain ⟨i, r, hr, rfl⟩ := (represents_of_build hbuild).1.mem_toList_iff.1 he
  exact Dialect.isName_of_load hload (List.mem_of_getElem? hr)

theorem finds_entry_of_ofSource (h : ofSource d source = .ok t) {e : Entry} (he : e ∈ t.toList) :
    t.entry? e.record.name = some e ∧ t.entryOfValue? e.record.opcode = some e := by
  obtain ⟨records, -, hbuild⟩ := ofSource_eq_ok_iff.1 h
  obtain ⟨hrep, hlen⟩ := represents_of_build hbuild
  obtain ⟨hname, hvalue, -⟩ := hrep.finds_entry hlen he
  exact ⟨hname, hvalue⟩

end Table

/-! ## Lines -/

/-- The line of an opcode tells its name, which holds no blank. -/
theorem Entry.describe_inj {e e' : Entry} (hname : isName e.record.name = true)
    (hname' : isName e'.record.name = true) (h : e.describe = e'.describe) :
    e.record.name = e'.record.name := by
  have hcut (e : Entry) : ∃ rest, e.describe.toList = e.record.name.toList ++ ' ' :: rest := by
    simp [describe]
  obtain ⟨rest, hrest⟩ := hcut e
  obtain ⟨rest', hrest'⟩ := hcut e'
  rw [h, hrest'] at hrest
  have hblank : ' ' ∈ Text.separators := by decide
  obtain ⟨heq, -⟩ := eq_of_append_cons (Text.isWord_of_isName hname' ' ' hblank)
    (Text.isWord_of_isName hname ' ' hblank) hrest
  exact (String.toList_inj.1 heq).symm

/-- **The lines of different opcodes differ.** -/
theorem Table.eq_of_describe_eq {d : Dialect} {source : String} {t : Table}
    (h : ofSource d source = .ok t) {e e' : Entry} (he : e ∈ t.toList) (he' : e' ∈ t.toList)
    (hline : e.describe = e'.describe) : e = e' := by
  have hnames := Entry.describe_inj (isName_of_ofSource h he) (isName_of_ofSource h he') hline
  have hentry := (finds_entry_of_ofSource h he).1
  rw [hnames, (finds_entry_of_ofSource h he').1] at hentry
  exact (Option.some.inj hentry).symm

/-! ## Runs -/

theorem Disk.path_ne_empty_of_read {disk : Disk} {path : String} {content : ByteArray}
    (h : disk.read path = .ok content) : path ≠ "" := by
  rintro rfl
  cases h

/-- A query prints the line of the opcode that it finds, and fails if there is none. -/
theorem Command.run_query {c : Command} {disk : Disk} {source : String} {t : Table} {target : Target}
    (haction : c.action = .query target) (hfile : disk.read c.path = .ok source.toUTF8)
    (ht : Table.ofSource c.dialect source = .ok t) :
    match target.find? t with
    | none => (c.run disk).result = .error (.unknown target)
    | some e => (c.run disk).result = .ok () ∧ (c.run disk).stdout = e.describe ++ "\n" := by
  have hresult : (c.evaluate (disk.read c.path)).result = (c.perform t).result := by
    rw [hfile, result_evaluate_of_ofSource ht]
  simp only [perform, haction] at hresult
  cases hfind : target.find? t with
  | none =>
    rw [hfind] at hresult
    exact (run_of_error hresult).1
  | some e =>
    rw [hfind] at hresult
    obtain ⟨hok, hstdout, -⟩ := run_of_print hresult
    exact ⟨hok, hstdout⟩

namespace Program

variable {d : Dialect} {source path : String} {t : Table} {disk : Disk}

/-- **What a process shows of a query.** -/
theorem run_query (ht : Table.ofSource d source = .ok t) (hfile : disk.read path = .ok source.toUTF8)
    {target : Target} {args : List String} (hasks : Asks target args) (environment : Environment) :
    match target.find? t with
    | none => (run environment (queryArguments d path args) disk).code = 1
    | some e => (run environment (queryArguments d path args) disk).code = 0 ∧
      (run environment (queryArguments d path args) disk).stdout = e.describe ++ "\n" := by
  let c : Command := { verbosity := 0, path, dialect := d, action := .query target }
  have hc : Command.ofArguments environment.spec (queryArguments d path args) = .ok c :=
    Command.ofArguments_query hasks (Disk.path_ne_empty_of_read hfile) environment.spec
  obtain ⟨hstdout, hcode⟩ := run_of_command hc disk
  have hrun := Command.run_query (c := c) rfl hfile ht
  cases hfind : target.find? t with
  | none =>
    rw [hfind] at hrun
    rw [hcode, hrun]
  | some e =>
    rw [hfind] at hrun
    rw [hcode, hstdout, hrun.1, hrun.2]
    exact ⟨rfl, rfl⟩

/-- A query that asks for an entry of the table prints its line. -/
theorem run_query_of_find? (ht : Table.ofSource d source = .ok t)
    (hfile : disk.read path = .ok source.toUTF8) {target : Target} {args : List String}
    (hasks : Asks target args) {e : Entry} (hfind : target.find? t = some e)
    (environment : Environment) :
    (run environment (queryArguments d path args) disk).code = 0 ∧
      (run environment (queryArguments d path args) disk).stdout = e.describe ++ "\n" := by
  have hrun := run_query ht hfile hasks environment
  rwa [hfind] at hrun

/-- A query fails just when it asks for what is not there. -/
theorem code_run_query (ht : Table.ofSource d source = .ok t)
    (hfile : disk.read path = .ok source.toUTF8) {target : Target} {args : List String}
    (hasks : Asks target args) {listed : Prop} (hlisted : target.find? t = none ↔ ¬ listed)
    (environment : Environment) :
    ((run environment (queryArguments d path args) disk).code = 0 ↔ listed) ∧
      ((run environment (queryArguments d path args) disk).code = 1 ↔ ¬ listed) := by
  have hrun := run_query ht hfile hasks environment
  rw [← hlisted, ← not_iff_not (b := listed), ← hlisted]
  cases hfind : target.find? t with
  | none =>
    rw [hfind] at hrun
    simp [hrun]
  | some e =>
    rw [hfind] at hrun
    simp [hrun.1]

/-- **Queries by name and by value agree.** Let a specification give a table. Asked for an opcode by name or
    by any literal of its value, the program prints one line, which shows the value as such a literal, and
    the lines of two opcodes differ. It fails for a name just when no row has that name, and for a literal
    just when no row has a literal of the same value. -/
theorem query_agrees (ht : Table.ofSource d source = .ok t) (hfile : disk.read path = .ok source.toUTF8)
    (environment : Environment) :
    let exit (args : List String) := run environment (queryArguments d path args) disk
    (∀ e ∈ t.toList,
      (exit [e.record.name]).code = 0 ∧
      (exit [e.record.name]).stdout = e.record.name ++ " (ordinal " ++ Text.decimal e.ordinal.toNat ++
        ", opcode " ++ e.record.opcode.hex ++ "): " ++ e.record.shape.display ++ ", " ++
        Text.decimal e.record.shape.arity.immediateWidth ++ "-bit immediate" ++ "\n" ∧
      Opcode.ofLiteral? e.record.opcode.hex = some e.record.opcode ∧
      ∀ l, Opcode.ofLiteral? l = some e.record.opcode → (exit ["--opcode", l]).code = 0 ∧
        (exit ["--opcode", l]).stdout = (exit [e.record.name]).stdout) ∧
    (∀ e ∈ t.toList, ∀ e' ∈ t.toList, e ≠ e' →
      (exit [e.record.name]).stdout ≠ (exit [e'.record.name]).stdout) ∧
    (∀ name, ((exit ["--", name]).code = 0 ↔ d.ListsName source name) ∧
      ((exit ["--", name]).code = 1 ↔ ¬ d.ListsName source name) ∧
      (name.toList.head? ≠ some '-' → exit [name] = exit ["--", name])) ∧
    ∀ l v, Opcode.ofLiteral? l = some v →
      ((exit ["--opcode", l]).code = 0 ↔ d.ListsValue source v) ∧
      ((exit ["--opcode", l]).code = 1 ↔ ¬ d.ListsValue source v) := by
  intro exit
  have hname : ∀ e ∈ t.toList, (exit [e.record.name]).code = 0 ∧
      (exit [e.record.name]).stdout = e.describe ++ "\n" := by
    intro e he
    have hdash := head?_ne_dash_of_isName (Table.isName_of_ofSource ht he)
    exact run_query_of_find? ht hfile (.word hdash) (Table.finds_entry_of_ofSource ht he).1 environment
  refine ⟨fun e he => ?_, fun e he e' he' hne => ?_, fun name => ?_, fun l v hl => ?_⟩
  · obtain ⟨hcode, hstdout⟩ := hname e he
    refine ⟨hcode, hstdout, Opcode.ofLiteral?_hex _, fun l hl => ?_⟩
    rw [hstdout]
    exact run_query_of_find? ht hfile (.literal hl) (Table.finds_entry_of_ofSource ht he).2 environment
  · rw [(hname e he).2, (hname e' he').2]
    intro hline
    exact hne (Table.eq_of_describe_eq ht he he' ((String.append_left_inj "\n").1 hline))
  · have hended : Asks (.name name) ["--", name] := .ended
    obtain ⟨hfound, hfails⟩ :=
      code_run_query ht hfile hended (Table.entry?_eq_none_iff_of_ofSource ht) environment
    refine ⟨hfound, hfails, fun hdash => ?_⟩
    have hpath := Disk.path_ne_empty_of_read hfile
    simp only [exit, run, Command.ofArguments_query (.word hdash) hpath,
      Command.ofArguments_query .ended hpath]
  · exact code_run_query ht hfile (.literal hl) (Table.entryOfValue?_eq_none_iff_of_ofSource ht)
      environment

/-- Two opcodes whose values are written and asked for in different bases, and a value that no row has. -/
theorem query_agrees_bases :
    let d : Dialect := { delimiter := ' ' }
    let source := "0x1F NOP Z x\n3 self T Y \n"
    let disk : Disk := .ofFiles [("a.csv", source.toUTF8)]
    let exit (args : List String) := run {} (queryArguments d "./a.csv" args) disk
    (∃ t, Table.ofSource d source = .ok t) ∧ disk.read "./a.csv" = .ok source.toUTF8 ∧
      (exit ["--opcode", "0b0011"]).code = 0 ∧
      (exit ["--opcode", "0b0011"]).stdout = (exit ["self"]).stdout ∧
      (exit ["self"]).stdout ≠ (exit ["NOP"]).stdout ∧ (exit ["--opcode", "32"]).code = 1 := by
  intro d source disk exit
  let nop : Record := ⟨31, "NOP", ⟨.zero, .zero⟩, none, 1⟩
  let self : Record := ⟨3, "self", ⟨.two, .sign⟩, none, 2⟩
  have hload : d.load source = .ok [nop, self] := by subst d source; rfl
  have hbuild : Table.build [nop, self] = .ok _ :=
    Table.build_eq_ok_iff.2 ⟨by decide, by decide, rfl⟩
  have ht := Table.ofSource_eq_ok_iff.2 ⟨_, hload, hbuild⟩
  have hfile : disk.read "./a.csv" = .ok source.toUTF8 := rfl
  obtain ⟨hagree, hdiffer, -, hvalue⟩ := query_agrees ht hfile {}
  have hself : ⟨1, self⟩ ∈ ([nop, self].foldl Table.push .empty).toList :=
    List.mem_cons_of_mem _ List.mem_cons_self
  have hnop : ⟨0, nop⟩ ∈ ([nop, self].foldl Table.push .empty).toList := List.mem_cons_self
  have hne : (⟨1, self⟩ : Entry) ≠ ⟨0, nop⟩ := by decide
  obtain ⟨-, -, -, hsame⟩ := hagree ⟨1, self⟩ hself
  obtain ⟨hcode, hstdout⟩ := hsame "0b0011" (by decide)
  have hlines := hdiffer _ hself _ hnop hne
  have hliteral : Opcode.ofLiteral? "32" = some 32 := by decide
  have hno : ¬ d.ListsValue source 32 := by
    rw [Dialect.listsValue_iff_of_load hload]
    decide
  have hfails := (hvalue "32" 32 hliteral).2.2 hno
  exact ⟨⟨_, ht⟩, hfile, hcode, hstdout, hlines, hfails⟩

end Program

end IsaTable
