/-
  Loading a specification.

  Byte order marks at the very start of the text are dropped. Blank lines and comment lines are
  skipped, every other line has to hold a row, and the first row that does not ends the loading.

  * `specLines`: the lines of a text.
  * `Dialect.dataLines`: the lines that have to hold rows, with their numbers.
  * `Dialect.load`: the records of all rows in order.
-/
import IsaTable.Report
import IsaTable.Spec.Row
import IsaTable.Text.Lines

namespace IsaTable

/-- The byte order mark. -/
def byteOrderMark : Char := '\uFEFF'

/-- The lines of a specification, without byte order marks at the start of the first. -/
def specLines (source : String) : List (List Char) :=
  (Text.lines source.toList).modifyHead (List.dropWhile (· = byteOrderMark))

namespace Dialect

/-- The lines that have to hold rows, with their numbers counted from one. -/
def dataLines (d : Dialect) (source : String) : List (List Char × Nat) :=
  ((specLines source).zipIdx 1).filter fun (text, _) => d.isData text

/-- The records of all rows in order, or the first row that is none. -/
def load (d : Dialect) (source : String) : Except RowError (List Record) :=
  (d.dataLines source).mapM fun (text, line) => d.readRow line text

/-- The number of comment lines. -/
def commentCount (d : Dialect) (source : String) : Nat :=
  (specLines source).countP d.isComment

/-- Loading, announced by how much was read. -/
def loadReport (d : Dialect) (source : String) : Report RowError (List Record) :=
  .ofExcept (d.load source) fun records =>
    [{ level := .debug
       message := "Loaded " ++ Text.decimal records.length ++ " opcode records (" ++
        Text.decimal (d.commentCount source) ++ " comment lines skipped)" }]

end Dialect

end IsaTable
