/-
  Opcode names.

  * `isName`: an ASCII letter or underscore, followed by letters, digits and underscores.
-/
namespace IsaTable

/-- The characters that a name may begin with. -/
def isNameStart (c : Char) : Bool :=
  c.isAlpha || c = '_'

/-- The characters that a name may go on with. -/
def isNameRest (c : Char) : Bool :=
  c.isAlphanum || c = '_'

/-- Whether a text can name an opcode. Only ASCII letters and digits count. -/
def isName (text : String) : Bool :=
  match text.toList with
  | [] => false
  | c :: cs => isNameStart c && cs.all isNameRest

end IsaTable
