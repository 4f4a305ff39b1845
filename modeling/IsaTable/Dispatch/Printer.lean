/-
  Decode dispatch as Rust source.

  * `Dispatch.write`: writes the generated module into a sink.
  * `Dispatch.lines`: its lines.
  * `Dispatch.pieces`: its text, a piece a line.
-/
import IsaTable.Dispatch.Basic
import IsaTable.Output.Sink
import IsaTable.Text.Plain
import IsaTable.Text.Quoted

namespace IsaTable.Dispatch

/-- A text as a string literal. -/
def literal (text : String) : String :=
  String.ofList (Text.quote Text.isPlain text.toList)

/-! ## Fixed lines -/

/-- The lines before the enum: where the module comes from, and the types that it uses. -/
def preamble : List String :=
  ["// Generated by isainfo from the ISA specification. Do not edit.",
   "",
   "#[derive(Debug, Clone, Copy, PartialEq, Eq, Hash)]",
   "pub enum RegisterArity \x7b",
   "    ZeroOperandRegisters,",
   "    OneOperandRegister,",
   "    TwoOperandRegisters,",
   "\x7d",
   "",
   "#[derive(Debug, Clone, Copy, PartialEq, Eq, Hash)]",
   "pub enum SignExtension \x7b",
   "    SignExtend,",
   "    ZeroExtend,",
   "\x7d",
   "",
   "#[allow(non_camel_case_types)]",
   "#[derive(Debug, Clone, Copy, PartialEq, Eq, Hash, PartialOrd, Ord)]"]

/-- The representation of the enum. One without variants has none to choose. -/
def representation (count : Nat) : List String :=
  if count = 0 then [] else ["#[repr(u32)]"]

/-- The lines between the enum and the number of its variants. -/
def enumEnd (enumName : String) : List String :=
  ["\x7d", "", "impl " ++ enumName ++ " \x7b"]

/-- The lines before the decode shapes. -/
def shapesStart : List String :=
  ["",
   "    pub const fn decode_info(self) -> (RegisterArity, SignExtension) \x7b",
   "        match self \x7b"]

/-- The lines between the decode shapes and the opcode values. -/
def valuesStart : List String :=
  ["        \x7d",
   "    \x7d",
   "",
   "    pub const fn from_opcode_value(raw: u64) -> Option<Self> \x7b",
   "        match raw \x7b"]

/-- The lines between the opcode values and the displayed texts. -/
def labelsStart (enumName : String) : List String :=
  ["            _ => None,",
   "        \x7d",
   "    \x7d",
   "\x7d",
   "",
   "impl core::fmt::Display for " ++ enumName ++ " \x7b",
   "    fn fmt(&self, f: &mut core::fmt::Formatter<'_>) -> core::fmt::Result \x7b",
   "        let name: &str = match *self \x7b"]

/-- The lines behind the displayed texts. -/
def ending : List String :=
  ["        \x7d;",
   "        f.write_str(name)",
   "    \x7d",
   "\x7d"]

/-! ## Lines with content -/

/-- The line that opens the enum. -/
def enumLine (enumName : String) : String :=
  "pub enum " ++ enumName ++ " \x7b"

/-- The line of a variant in the enum. -/
def variantLine (variant : String × UInt32) : String :=
  "    " ++ variant.1 ++ " = " ++ Text.decimal variant.2.toNat ++ ","

/-- The line of the number of variants. -/
def countLine (count : Nat) : String :=
  "    pub const COUNT: usize = " ++ Text.decimal count ++ ";"

/-- A variant as an expression or a pattern. -/
def qualified (enumName ident : String) : String :=
  enumName ++ "::" ++ ident

/-- The beginning of the line of all variants. -/
def allStart (enumName : String) (count : Nat) : String :=
  "    pub const ALL: [" ++ enumName ++ "; " ++ Text.decimal count ++ "] = ["

/-- The line of all variants. -/
def allLine (enumName : String) (count : Nat) (idents : List String) : String :=
  allStart enumName count ++ String.intercalate ", " (idents.map (qualified enumName)) ++ "];"

/-- The arm that gives the decode shape of a variant. -/
def shapeLine (enumName : String) (arm : String × Shape) : String :=
  "            " ++ qualified enumName arm.1 ++ " => (RegisterArity::" ++ arm.2.arity.name ++
    ", SignExtension::" ++ arm.2.extension.name ++ "),"

/-- The arm that gives the variant of an opcode value. -/
def valueLine (enumName : String) (arm : Opcode × String) : String :=
  "            " ++ arm.1.hex ++ " => Some(" ++ qualified enumName arm.2 ++ "),"

/-- The arm that gives the text of a variant. -/
def labelLine (enumName : String) (arm : String × String) : String :=
  "            " ++ qualified enumName arm.1 ++ " => " ++ literal arm.2 ++ ","

/-! ## The module -/

/-- Writes all variants, with a comma before each but the first. -/
def writeAllVariants (enumName : String) (idents : List String) (sink : Sink) : Except Sink Sink := do
  let mut sink := sink
  for (ident, position) in idents.zipIdx do
    if position > 0 then
      sink ← sink.write ", "
    sink ← sink.write (qualified enumName ident)
  return sink

/-- Writes the generated module. -/
def write (d : Dispatch) (sink : Sink) : Except Sink Sink := do
  let mut sink ← sink.writeLines preamble
  sink ← sink.writeLines (representation d.count)
  sink ← sink.writeLine (enumLine d.enumName)
  for variant in d.variants do
    sink ← sink.writeLine (variantLine variant)
  sink ← sink.writeLines (enumEnd d.enumName)
  sink ← sink.writeLine (countLine d.count)
  sink ← sink.writeLine ""
  sink ← sink.write (allStart d.enumName d.count)
  sink ← writeAllVariants d.enumName d.all sink
  sink ← sink.writeLine "];"
  sink ← sink.writeLines shapesStart
  for arm in d.shapes do
    sink ← sink.writeLine (shapeLine d.enumName arm)
  sink ← sink.writeLines valuesStart
  for arm in d.values do
    sink ← sink.writeLine (valueLine d.enumName arm)
  sink ← sink.writeLines (labelsStart d.enumName)
  for arm in d.labels do
    sink ← sink.writeLine (labelLine d.enumName arm)
  sink.writeLines ending

/-- The lines of the generated module. -/
def lines (d : Dispatch) : List String :=
  preamble ++ representation d.count ++
  [enumLine d.enumName] ++ d.variants.map variantLine ++ enumEnd d.enumName ++
  [countLine d.count, "", allLine d.enumName d.count d.all] ++
  shapesStart ++ d.shapes.map (shapeLine d.enumName) ++
  valuesStart ++ d.values.map (valueLine d.enumName) ++
  labelsStart d.enumName ++ d.labels.map (labelLine d.enumName) ++ ending

/-- The text of the generated module, a piece a line. -/
def pieces (d : Dispatch) : List String :=
  d.lines.map (· ++ "\n")

end IsaTable.Dispatch
