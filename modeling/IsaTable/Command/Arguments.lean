/-
  Command lines.

  Arguments are read from left to right. An option with a separate value waits for it; the value is
  looked at when the next option, name or the end of the line is reached, so an argument that is not
  known at all is reported before it. A value written in the same argument is looked at once.

  * `ArgumentError`: why a command line names no command.
  * `Subcommand.scan`: reads the arguments of a subcommand.
  * `Command.ofArguments`: the command that a command line names.
-/
import IsaTable.Command.Basic

namespace IsaTable

/-- Why a command line names no command, be it that it asks for something else. -/
inductive ArgumentError where
  /-- An option or a word that has no place where it stands. -/
  | unknownArgument
  /-- A value that is missing, empty where it names a file, or none of the choices. -/
  | invalidValue
  /-- A value that does not have the form it must have. -/
  | malformedValue
  /-- A value of an option that takes none. -/
  | surplusValue
  /-- An option given twice, or two arguments that exclude each other. -/
  | conflict
  | missingArgument
  | unknownSubcommand
  | missingSubcommand
  | noArguments
  /-- Not an error: the help text is asked for. -/
  | help
  /-- Not an error: the version is asked for. -/
  | version
deriving DecidableEq

/-- The subcommands. -/
inductive Subcommand where
  | check
  | render
  | query
deriving DecidableEq

/-- The subcommand of a word. -/
def Subcommand.ofWord? (word : String) : Option Subcommand :=
  if word = "check" then some check
  else if word = "render" then some render
  else if word = "query" then some query
  else none

/-- The options that take a value. -/
inductive Setting where
  | spec
  | layout
  | comment
  | delimiter
  | format
  | output
  | enumName
  | label
  | opcode
deriving DecidableEq

namespace Setting

/-- The long form of an option, without its dashes. -/
def long : Setting → String
  | spec => "spec"
  | layout => "layout"
  | comment => "comment"
  | delimiter => "delimiter"
  | format => "format"
  | output => "output"
  | enumName => "enum-name"
  | label => "prefix"
  | opcode => "opcode"

/-- The short form of an option, if it has one. -/
def short? : Setting → Option Char
  | spec => some 's'
  | format => some 'f'
  | output => some 'o'
  | _ => none

end Setting

/-- The kinds of output by name. -/
inductive OutputKind where
  | rust
  | onikiri
  | json
deriving DecidableEq

/-- A format of a kind. Code lists have eight codes a line. -/
def OutputKind.format (style : DispatchStyle) : OutputKind → Format
  | rust => .rust style
  | onikiri => .onikiri 8
  | json => .json

/-! ## Values -/

/-- A path, which must not be empty. -/
def readPath (value : String) : Except ArgumentError String :=
  if value = "" then .error .invalidValue else .ok value

/-- One character. -/
def readChar (value : String) : Except ArgumentError Char :=
  match value.toList with
  | [c] => .ok c
  | _ => .error .malformedValue

/-- An opcode literal. -/
def readOpcode (value : String) : Except ArgumentError Opcode :=
  match Opcode.ofLiteral? value with
  | some opcode => .ok opcode
  | none => .error .malformedValue

/-- The name of a layout. -/
def readLayout (value : String) : Except ArgumentError Layout :=
  if value = "any" then .ok .any
  else if value = "compact" then .ok .compact
  else if value = "annotated" then .ok .annotated
  else .error .invalidValue

/-- The name of a kind of output. -/
def readKind (value : String) : Except ArgumentError OutputKind :=
  if value = "rust" then .ok .rust
  else if value = "onikiri" then .ok .onikiri
  else if value = "json" then .ok .json
  else .error .invalidValue

/-- What has been chosen so far. -/
structure Choices where
  verbose : Nat := 0
  spec : Option String := none
  layout : Option Layout := none
  comment : Option Char := none
  delimiter : Option Char := none
  kind : Option OutputKind := none
  output : Option String := none
  enumName : Option String := none
  label : Option String := none
  opcode : Option Opcode := none
  name : Option String := none
deriving DecidableEq

/-- A choice that must not have been made before. -/
def once {α : Type} (earlier : Option α) (choice : Except ArgumentError α) :
    Except ArgumentError (Option α) :=
  if earlier.isSome then .error .conflict else choice.map some

namespace Choices

/-- Makes the choice that an option with its value stands for. -/
def choose (c : Choices) (setting : Setting) (value : String) : Except ArgumentError Choices :=
  match setting with
  | .spec => (once c.spec (readPath value)).map ({ c with spec := · })
  | .layout => (once c.layout (readLayout value)).map ({ c with layout := · })
  | .comment => (once c.comment (readChar value)).map ({ c with comment := · })
  | .delimiter => (once c.delimiter (readChar value)).map ({ c with delimiter := · })
  | .format => (once c.kind (readKind value)).map ({ c with kind := · })
  | .output => (once c.output (readPath value)).map ({ c with output := · })
  | .enumName => (once c.enumName (.ok value)).map ({ c with enumName := · })
  | .label => (once c.label (.ok value)).map ({ c with label := · })
  | .opcode => (once c.opcode (readOpcode value)).map ({ c with opcode := · })

/-- One more request to be told more. The count stays within a byte. -/
def moreVerbose (c : Choices) : Choices :=
  { c with verbose := min 255 (c.verbose + 1) }

/-- The settings under which the specification is read. -/
def dialect (c : Choices) : Dialect where
  comment := c.comment.getD '#'
  delimiter := c.delimiter.getD ','
  layout := c.layout.getD .any

/-- The format of the output. -/
def format (c : Choices) : Format :=
  (c.kind.getD .rust).format
    { enumName := c.enumName.getD "OpCode", label := c.label.getD "Op" }

/-- What a query asks for: exactly one of a name and a value. -/
def target (c : Choices) : Except ArgumentError Target :=
  match c.name, c.opcode with
  | some name, none => .ok (.name name)
  | none, some value => .ok (.opcode value)
  | some _, some _ => .error .conflict
  | none, none => .error .missingArgument

/-- The action of a subcommand. -/
def action (c : Choices) : Subcommand → Except ArgumentError Action
  | .check => .ok .check
  | .render => .ok (.render c.format c.output)
  | .query => c.target.map .query

/-- The path of the specification. -/
def path (c : Choices) : Except ArgumentError String :=
  match c.spec with
  | some path => .ok path
  | none => .error .missingArgument

end Choices

/-! ## Arguments of a subcommand -/

/-- What an option is for. -/
inductive Switch where
  | verbose
  | help
  | set (setting : Setting)
deriving DecidableEq

/-- An argument that is read but not yet looked at. -/
inductive Pending where
  | nothing
  /-- An option whose value is still to come. -/
  | awaiting (setting : Setting)
  /-- An option and its value. -/
  | given (setting : Setting) (value : String)
  | name (name : String)
deriving DecidableEq

/-- How far the arguments have been read. -/
structure Scan where
  choices : Choices := {}
  pending : Pending := .nothing
  /-- Whether the name of an opcode has been met. -/
  named : Bool := false
  /-- Whether options are over. -/
  ended : Bool := false
deriving DecidableEq

namespace Scan

/-- Looks at what is pending. -/
def settle (s : Scan) : Except ArgumentError Scan :=
  let settled := { s with pending := .nothing }
  match s.pending with
  | .nothing => .ok s
  | .awaiting _ => .error .invalidValue
  | .given setting value => (s.choices.choose setting value).map ({ settled with choices := · })
  | .name name => .ok { settled with choices := { s.choices with name := some name } }

/-- Counts a request to be told more. -/
def countVerbose (s : Scan) : Except ArgumentError Scan :=
  s.settle.map fun s => { s with choices := s.choices.moreVerbose }

/-- Asks for help, unless what is pending is wrong. -/
def askHelp (s : Scan) : Except ArgumentError Scan :=
  s.settle.bind fun _ => .error .help

/-- Begins an option whose value is the next argument. -/
def await (s : Scan) (setting : Setting) : Except ArgumentError Scan :=
  s.settle.map ({ · with pending := .awaiting setting })

/-- Takes an option together with its value. -/
def attach (s : Scan) (setting : Setting) (value : String) : Except ArgumentError Scan :=
  s.settle.bind fun s => (s.choices.choose setting value).map ({ s with choices := · })

/-- Takes the name of an opcode. -/
def takeName (s : Scan) (name : String) : Except ArgumentError Scan :=
  s.settle.map ({ · with pending := .name name, named := true })

end Scan

/-- An option in its long form, without dashes: its word, and the value behind an equals sign. -/
def splitEquals (body : List Char) : String × Option String :=
  (String.ofList (body.takeWhile (· ≠ '=')),
    match body.dropWhile (· ≠ '=') with
    | [] => none
    | _ :: value => some (String.ofList value))

/-- The value written directly behind an option in its short form, where an equals sign may stand
    between the two. -/
def attachedValue : List Char → String
  | '=' :: value => String.ofList value
  | value => String.ofList value

namespace Subcommand

/-- The options with a value that a subcommand takes. -/
def settings : Subcommand → List Setting
  | check => [.spec, .layout, .comment, .delimiter]
  | render => [.spec, .layout, .comment, .delimiter, .format, .output, .enumName, .label]
  | query => [.spec, .layout, .comment, .delimiter, .opcode]

/-- The option of a word. -/
def long? (sub : Subcommand) (word : String) : Option Switch :=
  if word = "verbose" then some .verbose
  else if word = "help" then some .help
  else (sub.settings.find? (·.long = word)).map .set

/-- The option of a letter. -/
def short? (sub : Subcommand) (letter : Char) : Option Switch :=
  if letter = 'v' then some .verbose
  else if letter = 'h' then some .help
  else (sub.settings.find? (·.short? = some letter)).map .set

/-- Reads an option in its long form, without dashes. -/
def scanLong (sub : Subcommand) (s : Scan) (body : List Char) : Except ArgumentError Scan :=
  match splitEquals body with
  | (word, value?) =>
    match sub.long? word, value? with
    | none, _ => .error .unknownArgument
    | some .verbose, none => s.countVerbose
    | some .help, none => s.askHelp
    | some (.set setting), none => s.await setting
    | some (.set setting), some value => s.attach setting value
    | some _, some _ => .error .surplusValue

/-- Reads letters behind a single dash. An option with a value takes the rest of them as its value,
    if there is a rest. -/
def scanShort (sub : Subcommand) (s : Scan) : List Char → Except ArgumentError Scan
  | [] => .ok s
  | letter :: rest =>
    match sub.short? letter with
    | none => .error .unknownArgument
    | some .verbose => s.countVerbose.bind fun s => sub.scanShort s rest
    | some .help => s.askHelp
    | some (.set setting) =>
      if rest = [] then s.await setting else s.attach setting (attachedValue rest)

/-- Reads a word that is no option. -/
def scanWord (sub : Subcommand) (s : Scan) (word : String) : Except ArgumentError Scan :=
  if sub = query ∧ !s.named then s.takeName word else .error .unknownArgument

/-- Reads an argument. -/
def scanArgument (sub : Subcommand) (s : Scan) (argument : String) : Except ArgumentError Scan :=
  if s.ended then sub.scanWord s argument
  else
    match argument.toList with
    | ['-', '-'] => .ok { s with ended := true }
    | '-' :: '-' :: body => sub.scanLong s body
    | '-' :: letter :: letters => sub.scanShort s (letter :: letters)
    | _ =>
      match s.pending with
      | .awaiting setting => .ok { s with pending := .given setting argument }
      | _ => sub.scanWord s argument

/-- The choices that the arguments of a subcommand make. -/
def scan (sub : Subcommand) (arguments : List String) : Except ArgumentError Choices := do
  let s ← arguments.foldlM sub.scanArgument {}
  let s ← s.settle
  return s.choices

/-- The command of a subcommand and its arguments. The path of the specification may come from the
    environment; arguments that exclude each other are reported before missing ones. -/
def command (sub : Subcommand) (defaultSpec : Option String) (verbose : Nat)
    (arguments : List String) : Except ArgumentError Command := do
  let choices ← sub.scan arguments
  let choices ← match choices.spec, defaultSpec with
    | none, some path => choices.choose .spec path
    | _, _ => .ok choices
  let action ← choices.action sub
  let path ← choices.path
  return { verbosity := if choices.verbose = 0 then verbose else choices.verbose
           path, dialect := choices.dialect, action }

end Subcommand

/-! ## Whole command lines -/

namespace Command

/-- Letters behind a single dash before the subcommand: the count of requests to be told more. -/
def countShort (verbose : Nat) : List Char → Except ArgumentError Nat
  | [] => .ok verbose
  | 'v' :: letters => countShort (min 255 (verbose + 1)) letters
  | 'h' :: _ => .error .help
  | 'V' :: _ => .error .version
  | _ :: _ => .error .unknownArgument

/-- An option in its long form before the subcommand. -/
def countLong (verbose : Nat) (body : List Char) : Except ArgumentError Nat :=
  match splitEquals body with
  | (word, value?) =>
    if word = "verbose" ∨ word = "help" ∨ word = "version" then
      if value?.isSome then .error .surplusValue
      else if word = "help" then .error .help
      else if word = "version" then .error .version
      else .ok (min 255 (verbose + 1))
    else .error .unknownArgument

/-- Whether a word is a subcommand, the one for help included. -/
def isSubcommand (word : String) : Bool :=
  word = "help" || (Subcommand.ofWord? word).isSome

/-- What asking for help on a subcommand gives. Subcommands have none of their own. -/
def helpOn : List String → ArgumentError
  | [] => .help
  | [word] => if isSubcommand word then .help else .unknownSubcommand
  | _ => .unknownSubcommand

/-- The command of a command line, with the count so far of requests to be told more, and whether
    options are over. -/
def ofArgumentsFrom (defaultSpec : Option String) (verbose : Nat) (ended : Bool) :
    List String → Except ArgumentError Command
  | [] => .error (if verbose = 0 then .noArguments else .missingSubcommand)
  | argument :: arguments =>
    if ended then .error (if isSubcommand argument then .unknownArgument else .unknownSubcommand)
    else if argument = "help" then .error (helpOn arguments)
    else
      match Subcommand.ofWord? argument with
      | some sub => sub.command defaultSpec verbose arguments
      | none =>
        match argument.toList with
        | ['-', '-'] => ofArgumentsFrom defaultSpec verbose true arguments
        | '-' :: '-' :: body =>
          (countLong verbose body).bind fun verbose =>
            ofArgumentsFrom defaultSpec verbose false arguments
        | '-' :: letter :: letters =>
          (countShort verbose (letter :: letters)).bind fun verbose =>
            ofArgumentsFrom defaultSpec verbose false arguments
        | _ => .error .unknownSubcommand

/-- The command that a command line names. The specification is taken from the environment if the
    line does not name one. -/
def ofArguments (defaultSpec : Option String) (arguments : List String) :
    Except ArgumentError Command :=
  ofArgumentsFrom defaultSpec 0 false arguments

end Command

end IsaTable
