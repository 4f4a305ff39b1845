import IsaTable.Command.Arguments
import IsaTable.Command.Basic
import IsaTable.Command.Disk
import IsaTable.Command.ErrorStream
import IsaTable.Command.Program
import IsaTable.Command.Run
import IsaTable.Command.Usage
import IsaTable.Dispatch.Basic
import IsaTable.Dispatch.Printer
import IsaTable.Dispatch.Reader
import IsaTable.Dispatch.Variant
import IsaTable.Json.Basic
import IsaTable.Json.Printer
import IsaTable.Json.Reader
import IsaTable.Main
import IsaTable.Opcode.Arity
import IsaTable.Opcode.Extension
import IsaTable.Opcode.Literal
import IsaTable.Opcode.Name
import IsaTable.Opcode.Record
import IsaTable.Opcode.Shape
import IsaTable.Output.CodeList
import IsaTable.Output.Dump
import IsaTable.Output.Format
import IsaTable.Output.Sink
import IsaTable.Proofs.Alike
import IsaTable.Proofs.CodeLists
import IsaTable.Proofs.Collisions
import IsaTable.Proofs.CommandLines
import IsaTable.Proofs.Concat
import IsaTable.Proofs.Contents
import IsaTable.Proofs.Disks
import IsaTable.Proofs.Dumps
import IsaTable.Proofs.Growth
import IsaTable.Proofs.Insertion
import IsaTable.Proofs.Iterations
import IsaTable.Proofs.Labels
import IsaTable.Proofs.Layouts
import IsaTable.Proofs.Lines
import IsaTable.Proofs.Literals
import IsaTable.Proofs.Loaded
import IsaTable.Proofs.Marks
import IsaTable.Proofs.Meaning
import IsaTable.Proofs.Outcome
import IsaTable.Proofs.Padding
import IsaTable.Proofs.Queries
import IsaTable.Proofs.Reading
import IsaTable.Proofs.Rendering
import IsaTable.Proofs.Repetitions
import IsaTable.Proofs.RowErrors
import IsaTable.Proofs.RowOrder
import IsaTable.Proofs.Rows
import IsaTable.Proofs.Runs
import IsaTable.Proofs.SameText
import IsaTable.Proofs.Search
import IsaTable.Proofs.StringLiterals
import IsaTable.Proofs.Summaries
import IsaTable.Proofs.Trimming
import IsaTable.Proofs.Widening
import IsaTable.Proofs.Words
import IsaTable.Proofs.Written
import IsaTable.Report
import IsaTable.Spec.Dialect
import IsaTable.Spec.Load
import IsaTable.Spec.Row
import IsaTable.Table.Basic
import IsaTable.Table.Build
import IsaTable.Table.Source
import IsaTable.Text.Blank
import IsaTable.Text.Cut
import IsaTable.Text.GraphemeExtend
import IsaTable.Text.Lines
import IsaTable.Text.Numeral
import IsaTable.Text.Plain
import IsaTable.Text.Quoted
import IsaTable.Text.Ranges
import IsaTable.Text.Terminal
import IsaTable.Text.Unprintable
