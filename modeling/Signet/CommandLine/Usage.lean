import Signet.CommandLine.Command
import Signet.Program

/-!
# Usage

What is shown when the usage of the program or of a command is asked for: the line of its
options, and the commands of the program.
-/
namespace Signet

/-- The names of options in brackets, with a place for the value where one is taken. -/
def OptionTable.synopsis {α : Type} (table : OptionTable α) : Text :=
  table.names.flatMap fun n => " [" ++ n.1 ++ (if table.takesValue n.2 then " VALUE]" else "]")

/-- The options of a command, in brackets. -/
def CommandName.synopsis : CommandName → Text
  | .storeAttestation => StoringOption.attestationTable.synopsis
  | .storeSignature => StoringOption.signatureTable.synopsis
  | .dumpDefaults => DumpOption.table.synopsis

/-- The commands of the program, a line for each. -/
def Program.commandLines : Text :=
  CommandName.all.flatMap fun c => "  " ++ c.identifier ++ "\n"

def Program.usage (command : Option CommandName) : Text :=
  match command with
  | none =>
    "usage: " ++ Program.name ++ ProgramOption.table.synopsis ++ " COMMAND\n\ncommands:\n" ++
      Program.commandLines
  | some c => "usage: " ++ Program.name ++ " " ++ c.identifier ++ c.synopsis ++ "\n"

end Signet
