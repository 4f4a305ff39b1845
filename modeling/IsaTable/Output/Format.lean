/-
  Output formats.

  * `Format`: the three kinds of output with their settings.
  * `Format.renderInto`: writes a table into a sink.
  * `Format.render`: the whole text.
-/
import IsaTable.Dispatch.Printer
import IsaTable.Output.CodeList
import IsaTable.Output.Dump
import IsaTable.Output.Sink

namespace IsaTable

/-- What a table can be written as. -/
inductive Format where
  /-- Rust source with an enum of the opcodes and its decode dispatch. -/
  | rust (style : DispatchStyle)
  /-- The code list that the Onikiri simulator reads. -/
  | onikiri (perLine : Nat)
  /-- A JSON array of the opcodes. -/
  | json
deriving DecidableEq

/-- Why a rendering stopped. -/
inductive RenderFault where
  | collision (collision : Collision)
  | full
deriving DecidableEq

/-- A rendering that stopped, with the sink as it was left. -/
structure RenderError where
  fault : RenderFault
  sink : Sink
deriving DecidableEq

/-- The error in words. -/
def RenderError.message (_ : RenderError) : String :=
  "an error occurred when formatting an argument"

namespace Format

/-- The name of the format in messages. -/
def name : Format → String
  | rust _ => "Rust"
  | onikiri _ => "Onikiri"
  | json => "Json"

/-- The text of a table, piece by piece. -/
def pieces : Format → Table → Except Collision (List String)
  | rust style, table => (Dispatch.ofTable style table).map Dispatch.pieces
  | onikiri perLine, table => .ok (CodeList.pieces perLine table)
  | json, table => .ok [table.dump]

/-- Writes a table into a sink. A collision is found before anything is written. -/
def renderInto (f : Format) (table : Table) (sink : Sink) : Except RenderError Sink :=
  match f with
  | rust style =>
    match Dispatch.ofTable style table with
    | .error collision => .error ⟨.collision collision, sink⟩
    | .ok dispatch => (dispatch.write sink).mapError (⟨.full, ·⟩)
  | onikiri perLine => (CodeList.write perLine table sink).mapError (⟨.full, ·⟩)
  | json => (sink.write table.dump).mapError (⟨.full, ·⟩)

/-- The whole text of a table. -/
def render (f : Format) (table : Table) : Except RenderError String :=
  (f.renderInto table .unbounded).map (·.text)

/-- Writing into a sink, with a warning about a collision. -/
def renderReport (f : Format) (table : Table) (sink : Sink) : Report RenderError Sink :=
  match f.renderInto table sink with
  | .ok sink => ⟨[], .ok sink⟩
  | .error e =>
    ⟨match e.fault with
      | .collision collision => [collision.event]
      | .full => [], .error e⟩

end Format

end IsaTable
