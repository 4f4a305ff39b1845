/-
  Building a decode table.

  Records are added one by one. A record whose name is taken is refused, and so is one whose value
  is taken; of the two faults the name is reported.

  * `BuildError`: why records give no table.
  * `Table.add`: a table with one more opcode.
  * `Table.build`: the table of a list of records.
  * `Table.add_eq_ok_iff`: a record is added just when its name and its value are new.
-/
import IsaTable.Report
import IsaTable.Table.Basic

namespace IsaTable

/-- Why records give no table. -/
inductive BuildError where
  | duplicateName (name : String) (first second : Nat)
  | duplicateValue (value : Opcode) (first second : Nat)
  | tooMany (count : Nat)
deriving DecidableEq

/-- The error in words. -/
def BuildError.message : BuildError → String
  | duplicateName name first second =>
    "duplicate opcode name `" ++ name ++ "` on lines " ++ Text.decimal first ++ " and " ++
      Text.decimal second
  | duplicateValue value first second =>
    "duplicate opcode value " ++ value.hex ++ " on lines " ++ Text.decimal first ++ " and " ++
      Text.decimal second
  | tooMany count => "too many opcodes: " ++ Text.decimal count ++ " does not fit in an ordinal"

namespace Table

/-- Puts a record behind the others, whose name and value it must not share. -/
def push (t : Table) (r : Record) : Table where
  entries := t.entries.push ⟨UInt32.ofNat t.size, r⟩
  byName := t.byName.insert r.name t.size
  byValue := t.byValue.insert r.opcode t.size

/-- A table with one more opcode. -/
def add (t : Table) (r : Record) : Except BuildError Table :=
  match t.entry? r.name with
  | some first => .error (.duplicateName r.name first.record.line r.line)
  | none =>
    match t.entryOfValue? r.opcode with
    | some first => .error (.duplicateValue r.opcode first.record.line r.line)
    | none => .ok (t.push r)

/-- The table of a list of records. There must be an ordinal for each of them. -/
def build (records : List Record) : Except BuildError Table :=
  if records.length < UInt32.size then records.foldlM add empty
  else .error (.tooMany records.length)

@[simp] theorem size_empty : empty.size = 0 := rfl

@[simp] theorem toList_empty : empty.toList = [] := rfl

@[simp] theorem size_push (t : Table) (r : Record) : (t.push r).size = t.size + 1 := by
  simp [size, push]

@[simp] theorem toList_push (t : Table) (r : Record) :
    (t.push r).toList = t.toList ++ [⟨UInt32.ofNat t.size, r⟩] := by
  simp [toList, push]

/-- **A record is added just when its name and its value are new.** -/
theorem add_eq_ok_iff {t t' : Table} {r : Record} :
    t.add r = .ok t' ↔
      t.entry? r.name = none ∧ t.entryOfValue? r.opcode = none ∧ t' = t.push r := by
  unfold add
  split
  · next first hname => simp [hname]
  · next hname =>
    split
    · next first hvalue => simp [hvalue]
    · next hvalue => simp [hname, hvalue, eq_comm]

/-- Building, announced by the size of the table. -/
def buildReport (records : List Record) : Report BuildError Table :=
  .ofExcept (build records) fun table =>
    [{ level := .debug
       message := "Built decode table with " ++ Text.decimal table.size ++ " opcodes" }]

end Table

end IsaTable
