/-
  Reading a generated module.

  The module is read line by line in the form in which it is written. An arm is read by what it
  says: opcode values by the number that they denote, displayed texts by the string that their
  literal denotes, and variants by their identifiers.

  * `Dispatch.ofLines?`: what the lines of a module say.
  * `Dispatch.ofText?`: what its text says.
-/
import IsaTable.Dispatch.Printer
import IsaTable.Text.Cut
import IsaTable.Text.Lines

namespace IsaTable

/-- The arity of a name in generated files. -/
def Arity.ofName? (name : List Char) : Option Arity :=
  [Arity.zero, .one, .two].find? (·.name.toList = name)

/-- The extension of a name in generated files. -/
def Extension.ofName? (name : List Char) : Option Extension :=
  [Extension.sign, .zero].find? (·.name.toList = name)

namespace Dispatch

/-- Fixed lines, as they are found in the text. -/
def fixed (lines : List String) : List (List Char) :=
  lines.map String.toList

/-- Reads the line that opens the enum. -/
def readEnum? (line : List Char) : Option String :=
  (Text.between? "pub enum ".toList " \x7b".toList line).map String.ofList

/-- Reads a variant in the enum. -/
def readVariant? (line : List Char) : Option (String × UInt32) := do
  let body ← Text.between? "    ".toList ",".toList line
  let (ident, digits) ← Text.cutAt? " = ".toList body
  let ordinal ← Text.valueOf? 10 digits
  return (String.ofList ident, UInt32.ofNat ordinal)

/-- Reads the number of variants. -/
def readCount? (line : List Char) : Option Nat := do
  let digits ← Text.between? "    pub const COUNT: usize = ".toList ";".toList line
  Text.valueOf? 10 digits

/-- Reads a variant behind the name of its enum. -/
def readQualified? (enumName : String) (text : List Char) : Option String :=
  (Text.afterStart? (enumName ++ "::").toList text).map String.ofList

/-- Reads the line of all variants. -/
def readAll? (enumName : String) (count : Nat) (line : List Char) : Option (List String) := do
  let start := "    pub const ALL: [" ++ enumName ++ "; " ++ Text.decimal count ++ "] = ["
  let body ← Text.between? start.toList "];".toList line
  if body = [] then return []
  let items := (' ' :: body).splitOn ','
  items.mapM fun item => Text.afterStart? [' '] item >>= readQualified? enumName

/-- Reads an arm: its pattern, and what it gives. -/
def readArm? (line : List Char) : Option (List Char × List Char) := do
  let body ← Text.between? "            ".toList ",".toList line
  Text.cutAt? " => ".toList body

/-- Reads the arm that gives the decode shape of a variant. -/
def readShape? (enumName : String) (line : List Char) : Option (String × Shape) := do
  let (pattern, body) ← readArm? line
  let ident ← readQualified? enumName pattern
  let body ← Text.between? "(RegisterArity::".toList ")".toList body
  let (arity, extension) ← Text.cutAt? ", SignExtension::".toList body
  return (ident, ⟨← Arity.ofName? arity, ← Extension.ofName? extension⟩)

/-- Reads the arm that gives the variant of an opcode value. -/
def readValue? (enumName : String) (line : List Char) : Option (Opcode × String) := do
  let (pattern, body) ← readArm? line
  let value ← Opcode.ofLiteral? (String.ofList pattern)
  let variant ← Text.between? "Some(".toList ")".toList body
  return (value, ← readQualified? enumName variant)

/-- Reads the arm that gives the text of a variant. -/
def readLabel? (enumName : String) (line : List Char) : Option (String × String) := do
  let (pattern, body) ← readArm? line
  let ident ← readQualified? enumName pattern
  return (ident, String.ofList (← Text.unquote? body))

/-- What the lines of a module say. -/
def ofLines? (lines : List (List Char)) : Option Dispatch := do
  let lines ← Text.afterStart? (fixed preamble) lines
  let lines := (Text.afterStart? (fixed ["#[repr(u32)]"]) lines).getD lines
  let enumName ← lines.head?.bind readEnum?
  let (variants, lines) := Text.takeMap readVariant? lines.tail
  let lines ← Text.afterStart? (fixed (enumEnd enumName)) lines
  let count ← lines.head?.bind readCount?
  let lines ← Text.afterStart? [[]] lines.tail
  let all ← lines.head?.bind (readAll? enumName count)
  let lines ← Text.afterStart? (fixed shapesStart) lines.tail
  let (shapes, lines) := Text.takeMap (readShape? enumName) lines
  let lines ← Text.afterStart? (fixed valuesStart) lines
  let (values, lines) := Text.takeMap (readValue? enumName) lines
  let lines ← Text.afterStart? (fixed (labelsStart enumName)) lines
  let (labels, lines) := Text.takeMap (readLabel? enumName) lines
  if lines = fixed ending then
    return { enumName, count, variants, all, shapes, values, labels }
  else none

/-- What the text of a module says. -/
def ofText? (text : String) : Option Dispatch :=
  ofLines? (Text.lines text.toList)

end Dispatch

end IsaTable
