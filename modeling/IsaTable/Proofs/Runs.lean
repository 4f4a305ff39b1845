/-
  What a run of a command leaves behind.

  A command computes all of its output before it prints or saves any, so it either comes to its end or
  leaves nothing behind. Output that is saved is what would be printed otherwise, even if it takes the
  place of the specification.

  * `Command.run_cases`: the three ways in which a run can end.
  * `Command.printing`: the command that prints what another one saves.
  * `Command.run_all_or_nothing`: what is printed, and which file differs afterwards.
-/
import IsaTable.Command.Run
import IsaTable.Proofs.Disks
import IsaTable.Proofs.Outcome
import IsaTable.Proofs.Rendering

namespace IsaTable

/-! ## Effects -/

/-- Text that is stored as UTF-8 is read as that text. -/
theorem fromUTF8?_toUTF8 (s : String) : String.fromUTF8? s.toUTF8 = some s := by
  rw [String.fromUTF8?, String.toUTF8_eq_toByteArray, dif_pos s.isValidUTF8]
  rfl

namespace Command

/-- The path that a command saves its output at, if it is to save it. -/
def output? (c : Command) : Option String :=
  match c.action with
  | .render _ output => output
  | _ => none

/-- The command that prints what this one saves. -/
def printing (c : Command) : Command :=
  match c.action with
  | .render format _ => { c with action := .render format none }
  | _ => c

/-- What a command does with its output. -/
def effect (c : Command) (receipt : Event) (text : String) : Effect :=
  match c.output? with
  | none => .print text
  | some path => .save path text receipt

theorem path_printing (c : Command) : c.printing.path = c.path := by
  obtain ⟨verbosity, path, dialect, action⟩ := c
  cases action <;> rfl

theorem table_printing (c : Command) : c.printing.table = c.table := by
  obtain ⟨verbosity, path, dialect, action⟩ := c
  cases action <;> rfl

/-- A command and the one that prints its output agree on the output, or on the failure. -/
theorem result_perform (c : Command) (t : Table) :
    ∃ (output : Except Failure String) (receipt : Event),
      (c.perform t).result = output.map (c.effect receipt) ∧
        (c.printing.perform t).result = output.map .print := by
  obtain ⟨verbosity, path, dialect, action⟩ := c
  cases action with
  | check => exact ⟨.ok _, ⟨.info, ""⟩, rfl, rfl⟩
  | query target =>
    simp only [printing, perform]
    cases target.find? t with
    | none => exact ⟨.error _, ⟨.info, ""⟩, rfl, rfl⟩
    | some entry => exact ⟨.ok _, ⟨.info, ""⟩, rfl, rfl⟩
  | render format output =>
    simp only [printing, perform, Report.result_bind, Report.result_mapError]
    cases (format.renderReport t .unbounded).result with
    | error e => exact ⟨.error _, ⟨.info, ""⟩, rfl, rfl⟩
    | ok sink =>
      cases output with
      | none => exact ⟨.ok sink.text, ⟨.info, ""⟩, rfl, rfl⟩
      | some path => exact ⟨.ok sink.text, _, rfl, rfl⟩

/-- **All output is there before any of it is printed or saved.** -/
theorem result_evaluate (c : Command) (content : Except FileFault ByteArray) :
    ∃ (output : Except Failure String) (receipt : Event),
      (c.evaluate content).result = output.map (c.effect receipt) ∧
        (c.printing.evaluate content).result = output.map .print := by
  simp only [evaluate, Report.result_bind, table_printing]
  cases (c.table content).result with
  | error failure => exact ⟨.error failure, ⟨.info, ""⟩, rfl, rfl⟩
  | ok t => exact c.result_perform t

/-- The table of a specification that can be read. -/
theorem result_table {c : Command} {source : String} {t : Table}
    (ht : Table.ofSource c.dialect source = .ok t) :
    (c.table (.ok source.toUTF8)).result = .ok t := by
  simp only [table, Command.source, fromUTF8?_toUTF8, Report.result_bind, Report.result_mapError,
    Table.result_ofSourceReport, Except.bind, ht]
  rfl

/-- Once there is a table, the rest is up to the action. -/
theorem result_evaluate_of_ofSource {c : Command} {source : String} {t : Table}
    (ht : Table.ofSource c.dialect source = .ok t) :
    (c.evaluate (.ok source.toUTF8)).result = (c.perform t).result := by
  rw [evaluate, Report.result_bind, result_table ht]
  rfl

/-! ## Runs -/

variable {c : Command} {d : Disk}

theorem run_of_error {failure : Failure} (h : (c.evaluate (d.read c.path)).result = .error failure) :
    (c.run d).result = .error failure ∧ (c.run d).stdout = "" ∧ (c.run d).disk = d := by
  simp [run, h]

theorem run_of_print {text : String} (h : (c.evaluate (d.read c.path)).result = .ok (.print text)) :
    (c.run d).result = .ok () ∧ (c.run d).stdout = text ∧ (c.run d).disk = d := by
  simp [run, h]

theorem run_of_save {path text : String} {receipt : Event}
    (h : (c.evaluate (d.read c.path)).result = .ok (.save path text receipt)) :
    (c.run d).stdout = "" ∧
      match d.write path text.toUTF8 with
      | .error fault => (c.run d).result = .error (.unwritable path fault) ∧ (c.run d).disk = d
      | .ok d' => (c.run d).result = .ok () ∧ (c.run d).disk = d' := by
  simp only [run, h]
  cases d.write path text.toUTF8 <;> exact ⟨rfl, rfl, rfl⟩

/-- **How a run can end.** It fails, whether it is to print or to save; or the one prints its output, and
    the other one saves it, unless that fails. -/
theorem run_cases (c : Command) (d : Disk) :
    (∃ failure, (c.run d).result = .error failure ∧ (c.printing.run d).result = .error failure ∧
      (c.run d).stdout = "" ∧ (c.run d).disk = d) ∨
    ∃ text, (c.printing.run d).result = .ok () ∧ (c.printing.run d).stdout = text ∧
      match c.output? with
      | none => (c.run d).result = .ok () ∧ (c.run d).stdout = text ∧ (c.run d).disk = d
      | some path => (c.run d).stdout = "" ∧
        match d.write path text.toUTF8 with
        | .error fault => (c.run d).result = .error (.unwritable path fault) ∧ (c.run d).disk = d
        | .ok d' => (c.run d).result = .ok () ∧ (c.run d).disk = d' := by
  obtain ⟨output, receipt, hc, hprint⟩ := c.result_evaluate (d.read c.path)
  rw [← c.path_printing] at hprint
  cases output with
  | error failure =>
    obtain ⟨hresult, hstdout, hdisk⟩ := run_of_error hc
    exact Or.inl ⟨failure, hresult, (run_of_error hprint).1, hstdout, hdisk⟩
  | ok text =>
    obtain ⟨hresult, hstdout, -⟩ := run_of_print hprint
    refine Or.inr ⟨text, hresult, hstdout, ?_⟩
    simp only [Except.map, effect] at hc
    cases hout : c.output? with
    | none =>
      rw [hout] at hc
      exact run_of_print hc
    | some path =>
      rw [hout] at hc
      exact run_of_save hc

theorem run_of_result_error {failure : Failure} (h : (c.run d).result = .error failure) :
    (c.run d).stdout = "" ∧ (c.run d).disk = d := by
  rcases c.run_cases d with ⟨-, -, -, hstdout, hdisk⟩ | ⟨text, -, -, hends⟩
  · exact ⟨hstdout, hdisk⟩
  split at hends
  · rw [hends.1] at h
    cases h
  obtain ⟨hstdout, hends⟩ := hends
  split at hends
  · exact ⟨hstdout, hends.2⟩
  · rw [hends.1] at h
    cases h

theorem run_of_output?_none (h : c.output? = none) : (c.run d).disk = d := by
  rcases c.run_cases d with ⟨-, -, -, -, hdisk⟩ | ⟨text, -, -, hends⟩
  · exact hdisk
  · rw [h] at hends
    exact hends.2.2

/-- Saving is printing, and writing what was printed. -/
theorem run_of_output?_some {path : String} (h : c.output? = some path) :
    (c.run d).stdout = "" ∧
      ∀ d', (c.run d).result = .ok () ∧ (c.run d).disk = d' ↔
        (c.printing.run d).result = .ok () ∧
          d.write path (c.printing.run d).stdout.toUTF8 = .ok d' := by
  rcases c.run_cases d with ⟨failure, hresult, hprint, hstdout, -⟩ | ⟨text, hprint, rfl, hends⟩
  · refine ⟨hstdout, fun d' => ?_⟩
    rw [hresult, hprint]
    simp
  rw [h] at hends
  obtain ⟨hstdout, hends⟩ := hends
  refine ⟨hstdout, fun d' => ?_⟩
  rw [hprint]
  split at hends
  · next fault hwrite =>
    rw [hends.1, hwrite]
    simp
  · next d'' hwrite =>
    rw [hends.1, hends.2, hwrite]
    simp

/-- **A command comes to its end or leaves nothing behind.** If it fails, nothing is printed and the disk is
    as it was. If it succeeds, only the file that it saves its output at may differ: that file then holds
    the text that the command prints when it is not to save it, wherever it is and also if the
    specification was there. It succeeds in saving just when it would succeed in printing and the path
    leads to where a file is or can be, and what is saved is not printed. -/
theorem run_all_or_nothing (c : Command) (d : Disk) :
    (∀ failure, (c.run d).result = .error failure → (c.run d).stdout = "" ∧ (c.run d).disk = d) ∧
    (c.output? = none → (c.run d).disk = d) ∧
    ∀ path, c.output? = some path →
      (c.run d).stdout = "" ∧
      ((c.run d).result = .ok () ↔ (c.printing.run d).result = .ok () ∧
        ∃ place, d.Leads path place ∧ d.kind? place ≠ some .folder) ∧
      ((c.run d).result = .ok () →
        d.write path (c.printing.run d).stdout.toUTF8 = .ok (c.run d).disk ∧
        ∃ place, d.Leads path place ∧
          d.Saved place (c.printing.run d).stdout.toUTF8 (c.run d).disk) := by
  refine ⟨fun failure => run_of_result_error, run_of_output?_none, fun path hout => ?_⟩
  obtain ⟨hstdout, hsaves⟩ := run_of_output?_some (d := d) hout
  refine ⟨hstdout, ?_, ?_⟩
  · constructor
    · intro hok
      obtain ⟨hprint, hwrite⟩ := (hsaves _).1 ⟨hok, rfl⟩
      obtain ⟨place, hleads, hfree, -⟩ := Disk.write_eq_ok_iff.1 hwrite
      exact ⟨hprint, place, hleads, hfree⟩
    · rintro ⟨hprint, place, hleads, hfree⟩
      exact ((hsaves _).2 ⟨hprint, Disk.write_eq_ok_iff.2 ⟨place, hleads, hfree, rfl⟩⟩).1
  · intro hok
    obtain ⟨-, hwrite⟩ := (hsaves _).1 ⟨hok, rfl⟩
    exact ⟨hwrite, Disk.saved_of_write hwrite⟩

/-- A code list takes the place of the specification that it is made of. One is read by a path from the
    root, and the other written by a path through the folder above. -/
theorem run_all_or_nothing_in_place :
    let source := "0x1F,NOP,Z,x\n"
    let data : Node := .folder [("a.csv", .file source.toUTF8), ("b.csv", .file "".toUTF8)]
    let d : Disk := ⟨.folder [("data", data), ("work", .folder [])], ["work"], rfl⟩
    let c : Command := ⟨0, "/data/a.csv", {}, .render (.onikiri 8) (some "../data/./a.csv")⟩
    (c.run d).result = .ok () ∧ (c.run d).stdout = "" ∧
      (c.run d).disk.kind? ["data", "a.csv"] = some (.file (c.printing.run d).stdout.toUTF8) ∧
      (c.run d).disk.read "/data/a.csv" = .ok (c.printing.run d).stdout.toUTF8 ∧
      (c.run d).disk.kind? ["data", "b.csv"] = some (.file "".toUTF8) := by
  intro source data d c
  let nop : Record := ⟨31, "NOP", ⟨.zero, .zero⟩, none, 1⟩
  have hload : c.dialect.load source = .ok [nop] := by subst source c; rfl
  have hbuild : Table.build [nop] = .ok _ := Table.build_eq_ok_iff.2 ⟨by decide, by decide, rfl⟩
  have ht : Table.ofSource c.printing.dialect source = .ok _ :=
    Table.ofSource_eq_ok_iff.2 ⟨_, hload, hbuild⟩
  have hwrite : (Format.onikiri 8).renderInto ([nop].foldl Table.push .empty) .unbounded = .ok _ :=
    Format.renderInto_of_pieces rfl
  obtain ⟨text, hresult⟩ : ∃ text,
      (c.printing.evaluate (d.read "/data/a.csv")).result = .ok (.print text) := by
    have hfile : d.read "/data/a.csv" = .ok source.toUTF8 := rfl
    rw [hfile, result_evaluate_of_ofSource ht]
    simp only [c, printing, perform, Format.renderReport, hwrite]
    exact ⟨_, rfl⟩
  have hprint := (run_of_print hresult).1
  have hleads : d.Leads "../data/./a.csv" ["data", "a.csv"] := ⟨["data"], "a.csv", rfl, rfl, rfl⟩
  have hfree : d.kind? ["data", "a.csv"] ≠ some .folder := nofun
  obtain ⟨hstdout, hends, hsaves⟩ := (run_all_or_nothing c d).2.2 "../data/./a.csv" rfl
  have hok := hends.2 ⟨hprint, _, hleads, hfree⟩
  obtain ⟨-, place, hplace, hsaved⟩ := hsaves hok
  obtain rfl := hleads.unique hplace
  have hspec : d.Leads "/data/a.csv" ["data", "a.csv"] := ⟨["data"], "a.csv", rfl, rfl, rfl⟩
  exact ⟨hok, hstdout, hsaved.kind?, hsaved.read _ hspec, hsaved.kind?_of_ne _ (by decide)⟩

end Command

end IsaTable
