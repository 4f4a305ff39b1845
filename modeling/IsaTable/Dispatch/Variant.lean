/-
  Variant identifiers: opcode names as variants of a generated Rust enum.

  A keyword of Rust is written as a raw identifier, and the few words that cannot be raw get an
  underscore. So two names may end up as one identifier, which is an error of the specification as
  far as this output goes.

  * `Variant.ident`: the identifier of a name.
  * `Collision`: two names with one identifier.
  * `Variant.idents`: the identifiers of a list of names, or its first collision.
-/
import IsaTable.Report
import Std.Data.HashMap

namespace IsaTable

/-- Two opcode names with one variant identifier, the earlier one first. -/
structure Collision where
  first : String
  second : String
  ident : String
deriving DecidableEq

/-- The warning about a collision. -/
def Collision.event (c : Collision) : Event where
  level := .warn
  message := "Opcodes " ++ c.first ++ " and " ++ c.second ++ " both render as variant " ++ c.ident

namespace Variant

/-- Words that are no identifiers, not even raw ones. -/
def reserved : List String :=
  ["self", "Self", "super", "crate", "_"]

/-- Words that are identifiers only when they are raw. -/
def keywords : List String :=
  ["as", "async", "await", "break", "const", "continue", "dyn", "else", "enum", "extern",
   "false", "fn", "for", "if", "impl", "in", "let", "loop", "match", "mod", "move", "mut",
   "pub", "ref", "return", "static", "struct", "trait", "true", "type", "unsafe", "use",
   "where", "while", "abstract", "become", "box", "do", "final", "gen", "macro", "override",
   "priv", "try", "typeof", "unsized", "virtual", "yield"]

/-- The variant identifier of an opcode name. -/
def ident (name : String) : String :=
  if name ∈ reserved then name ++ "_"
  else if name ∈ keywords then "r#" ++ name
  else name

/-- The identifiers of names, given the names that stand behind the identifiers seen so far. -/
def identsFrom (seen : Std.HashMap String String) : List String → Except Collision (List String)
  | [] => .ok []
  | name :: names =>
    match seen[ident name]? with
    | some first => .error ⟨first, name, ident name⟩
    | none => (identsFrom (seen.insert (ident name) name) names).map (ident name :: ·)

/-- The identifiers of names in order, or the first collision among them. -/
def idents (names : List String) : Except Collision (List String) :=
  identsFrom ∅ names

end Variant

end IsaTable
