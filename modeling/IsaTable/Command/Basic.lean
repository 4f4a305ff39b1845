/-
  Commands on a specification file.

  A command reads one file and then prints a text or saves it. What it does is decided from the
  content of that file alone, so it is computed first, as an `Effect`, and carried out afterwards.

  * `Command`: what is asked for.
  * `Failure`: why it cannot be done, with the chain of causes.
  * `Command.evaluate`: the effect of a command, given what reading the file gave.
-/
import IsaTable.Command.Disk
import IsaTable.Output.Format
import IsaTable.Table.Source

namespace IsaTable

/-- The opcode that a query asks for. -/
inductive Target where
  | name (text : String)
  | opcode (value : Opcode)
deriving DecidableEq

/-- What is done with the table. -/
inductive Action where
  | check
  | render (format : Format) (output : Option String)
  | query (target : Target)
deriving DecidableEq

/-- A command. -/
structure Command where
  /-- How much the run is to tell about itself. -/
  verbosity : Nat
  /-- The path of the specification. -/
  path : String
  dialect : Dialect
  action : Action
deriving DecidableEq

/-- Why a command cannot be carried out. -/
inductive Failure where
  | unreadable (path : String) (fault : FileFault)
  | invalid (path : String) (error : SpecError)
  | unrendered (format : Format) (error : RenderError)
  | unwritable (path : String) (fault : FileFault)
  | unknown (target : Target)
deriving DecidableEq

/-- The failure in words, from the outermost to its first cause. -/
def Failure.chain : Failure → List String
  | unreadable path fault => ["Failed to read specification " ++ path, fault.message]
  | invalid path error => ["Invalid specification " ++ path, error.message, error.cause]
  | unrendered format error => ["Failed to render " ++ format.name ++ " output", error.message]
  | unwritable path fault => ["Failed to write " ++ path, fault.message]
  | unknown (.name text) => ["Unknown opcode name " ++ text]
  | unknown (.opcode value) => ["Unknown opcode value " ++ value.hex]

/-- What a command does in the end. -/
inductive Effect where
  | print (text : String)
  /-- Saves a text, and tells so once it is done. -/
  | save (path : String) (text : String) (receipt : Event)
deriving DecidableEq

namespace Table

/-- The number of opcodes of an arity. -/
def countArity (t : Table) (arity : Arity) : Nat :=
  t.toList.countP (·.record.shape.arity = arity)

/-- The number of opcodes with a signed immediate. -/
def countSigned (t : Table) : Nat :=
  t.toList.countP (·.record.shape.extension.isSigned)

/-- The number of opcodes, also by arity and extension, in words. -/
def summary (t : Table) : String :=
  Text.decimal t.size ++ " opcodes (" ++ Text.decimal (t.countArity .zero) ++ " zero-reg, " ++
    Text.decimal (t.countArity .one) ++ " one-reg, " ++
    Text.decimal (t.countArity .two) ++ " two-reg, " ++
    Text.decimal t.countSigned ++ " sign-extended)"

end Table

/-- An opcode in words. -/
def Entry.describe (e : Entry) : String :=
  e.record.name ++ " (ordinal " ++ Text.decimal e.ordinal.toNat ++ ", opcode " ++
    e.record.opcode.hex ++ "): " ++ e.record.shape.display ++ ", " ++
    Text.decimal e.record.shape.arity.immediateWidth ++ "-bit immediate"

/-- The opcode that a query asks for. -/
def Target.find? (t : Table) : Target → Option Entry
  | .name text => t.entry? text
  | .opcode value => t.entryOfValue? value

namespace Command

/-- The text of the specification, given what reading the file gave. -/
def source (c : Command) (content : Except FileFault ByteArray) : Report Failure String :=
  match content with
  | .error fault => .fail (.unreadable c.path fault)
  | .ok bytes =>
    match String.fromUTF8? bytes with
    | none => .fail (.unreadable c.path .notText)
    | some source =>
      ⟨[{ level := .debug
          message := "Read " ++ Text.decimal bytes.size ++ " bytes from " ++ c.path }], .ok source⟩

/-- The table of the specification. -/
def table (c : Command) (content : Except FileFault ByteArray) : Report Failure Table := do
  let source ← c.source content
  (Table.ofSourceReport c.dialect source).mapError (.invalid c.path)

/-- What is done with the table. -/
def perform (c : Command) (table : Table) : Report Failure Effect :=
  match c.action with
  | .check =>
    ⟨[{ level := .info, message := c.path ++ ": " ++ table.summary }],
      .ok (.print (Text.decimal table.size ++ "\n"))⟩
  | .render format output => do
    let sink ← (format.renderReport table .unbounded).mapError (.unrendered format)
    match output with
    | none => return .print sink.text
    | some path =>
      return .save path sink.text
        { level := .info
          message := "Wrote " ++ format.name ++ " output for " ++ Text.decimal table.size ++
            " opcodes to " ++ path }
  | .query target =>
    match target.find? table with
    | none => .fail (.unknown target)
    | some entry => .value (.print (entry.describe ++ "\n"))

/-- The effect of a command, given what reading the file gave. -/
def evaluate (c : Command) (content : Except FileFault ByteArray) : Report Failure Effect := do
  let table ← c.table content
  c.perform table

end Command

end IsaTable
