/-
  Words about command lines.

  * `usage`: how the program is called.
  * `ArgumentError.message`: what is wrong with a command line.
-/
import IsaTable.Command.Arguments

namespace IsaTable

/-- How the program is called. -/
def usage : String :=
  String.join <| List.map (· ++ "\n")
    ["Decode tables from ISA specifications",
     "",
     "Usage: isainfo [-v]... <COMMAND> [OPTIONS]",
     "",
     "Commands:",
     "  check         Validate a specification and summarize its opcodes",
     "  render        Write the decode table in one of the output formats",
     "  query [NAME]  Print the decode attributes of one opcode",
     "",
     "Options of every command:",
     "  -s, --spec PATH       ISA specification file [env: ISAINFO_SPEC]",
     "      --layout LAYOUT   any, compact or annotated",
     "      --comment CHAR    Lines starting with this character are ignored",
     "      --delimiter CHAR  Stands between two fields of a row",
     "  -v, --verbose         Increase log verbosity",
     "  -h, --help            Print help",
     "",
     "Options of render:",
     "  -f, --format FORMAT   rust, onikiri or json",
     "  -o, --output PATH     Output file, stdout when omitted",
     "      --enum-name NAME  Name of the generated opcode enum (rust format)",
     "      --prefix PREFIX   Stands before displayed opcode names (rust format)",
     "",
     "Options of query:",
     "      --opcode VALUE    Raw opcode value in place of a name"]

/-- What is wrong with a command line. -/
def ArgumentError.message : ArgumentError → String
  | unknownArgument => "unexpected argument"
  | invalidValue => "invalid or missing value"
  | malformedValue => "malformed value"
  | surplusValue => "unexpected value"
  | conflict => "arguments cannot be used together"
  | missingArgument => "a required argument is missing"
  | unknownSubcommand => "unrecognized subcommand"
  | missingSubcommand => "a subcommand is required"
  | noArguments => "no arguments"
  | help => "help"
  | version => "version"

end IsaTable
