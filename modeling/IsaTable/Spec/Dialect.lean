/-
  Dialects of specifications.

  A specification is a text with one opcode a row. The dialect says which character begins a comment
  line, which one separates the fields of a row, and whether rows carry a note.

  * `Layout`: which numbers of fields a row may have.
  * `Columns`, `Layout.columns?`: the fields of a row by their meaning.
  * `Dialect`: the settings under which a specification is read.
-/
import IsaTable.Text.Blank

namespace IsaTable

/-- Whether rows carry a note: some of them, none or all. -/
inductive Layout where
  | any
  | compact
  | annotated
deriving DecidableEq

/-- The numbers of fields that a layout admits, in words. -/
def Layout.expected : Layout → String
  | any => "4 or 5"
  | compact => "4"
  | annotated => "5"

/-- The fields of a row by their meaning. -/
structure Columns where
  opcode : String
  name : String
  arity : String
  extension : String
  note : Option String
deriving DecidableEq

/-- The fields by their meaning, if the layout admits that many. -/
def Layout.columns? : Layout → List String → Option Columns
  | any, [opcode, name, arity, extension] => some ⟨opcode, name, arity, extension, none⟩
  | any, [opcode, name, arity, extension, note] => some ⟨opcode, name, arity, extension, some note⟩
  | compact, [opcode, name, arity, extension] => some ⟨opcode, name, arity, extension, none⟩
  | annotated, [opcode, name, arity, extension, note] =>
    some ⟨opcode, name, arity, extension, some note⟩
  | _, _ => none

/-- The settings under which a specification is read. -/
structure Dialect where
  /-- A line whose first character other than a blank is this one is a comment. -/
  comment : Char := '#'
  /-- The character between two fields. -/
  delimiter : Char := ','
  layout : Layout := .any
deriving DecidableEq

namespace Dialect

/-- The fields of a row, each without the blanks around it. -/
def fields (d : Dialect) (text : List Char) : List String :=
  (text.splitOn d.delimiter).map fun field => String.ofList (Text.trim field)

/-- Whether a line holds blanks only. -/
def isBlankLine (text : List Char) : Bool :=
  (Text.trim text).isEmpty

/-- Whether a line is a comment. -/
def isComment (d : Dialect) (text : List Char) : Bool :=
  (Text.trim text).head? = some d.comment

/-- Whether a line holds a row. -/
def isData (d : Dialect) (text : List Char) : Bool :=
  !isBlankLine text && !d.isComment text

end Dialect

end IsaTable
