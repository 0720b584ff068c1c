import Signet.CommandLine.Storing

/-!
# Commands

What the arguments of the program ask for: an attestation or a signature to be stored, or
the default settings to be written to a directory. The program has options of its own,
which stand before the name of the command.
-/
namespace Signet

/-- The options of the command that writes the default settings. -/
inductive DumpOption where
  | help
  | directory
deriving DecidableEq, Repr

def DumpOption.table : OptionTable DumpOption :=
  ⟨[("-h", help), ("--help", help), ("-o", directory), ("--output-dir", directory)],
    fun o => o ≠ help⟩

/-- A command with what it was told. -/
inductive Command where
  | storeAttestation (arguments : StoringArguments) (statement : Text)
  | storeSignature (arguments : StoringArguments) (payload : Option Text)
  | dumpDefaults (directory : Option Text)
deriving DecidableEq, Repr

namespace Command

/-- The command of a name with its arguments. -/
def read (name : CommandName) (arguments : List Text) : Except Interruption Command := do
  let helpOf {α : Type} [DecidableEq α] (h o : α) : Option Interruption :=
    if o = h then some (.help name) else none
  match name with
  | .storeAttestation =>
    let given ← GivenOptions.ofEvents (helpOf StoringOption.help) []
      (StoringOption.attestationTable.read arguments)
    return .storeAttestation (← StoringArguments.ofOptions given) (← given.require .statement)
  | .storeSignature =>
    let given ← GivenOptions.ofEvents (helpOf StoringOption.help) []
      (StoringOption.signatureTable.read arguments)
    return .storeSignature (← StoringArguments.ofOptions given) (Assoc.lookup .payload given)
  | .dumpDefaults =>
    let given ← GivenOptions.ofEvents (helpOf DumpOption.help) []
      (DumpOption.table.read arguments)
    return .dumpDefaults (Assoc.lookup .directory given)

end Command

/-! ## The whole command line -/

inductive ProgramOption where
  | help
  | version
  | verbose
  | settings
deriving DecidableEq, Repr

def ProgramOption.table : OptionTable ProgramOption :=
  ⟨[("-h", help), ("--help", help), ("-V", version), ("--version", version), ("-v", verbose),
    ("--verbose", verbose), ("-dp", settings), ("--defaults-path", settings)],
    fun o => o = settings⟩

/-- What a whole command line asks for. Without a command only the options of the program
are given. -/
structure Invocation where
  /-- Details are logged too. -/
  verbose : Bool := false
  /-- The file of settings of the user, empty if there is none. -/
  settings : Text := []
  command : Option Command := none
deriving DecidableEq, Repr

namespace Invocation

/-- What events ask for. The first word is the name of a command, to which all arguments
behind it belong; something that is no option is a misuse unless an interruption follows. -/
def ofEvents (i : Invocation) (stray : Bool) :
    List (Event ProgramOption) → Except Interruption Invocation
  | [] => if stray then .error .misuse else .ok i
  | .option .help _ :: _ => .error (.help none)
  | .option .version _ :: _ => .error .version
  | .option .verbose _ :: rest => ofEvents { i with verbose := true } stray rest
  | .option .settings value :: rest => ofEvents { i with settings := value.getD [] } stray rest
  | .stray _ :: rest => ofEvents i true rest
  | .fault :: _ => .error .misuse
  | .word t behind :: _ =>
    match CommandName.ofIdentifier? t with
    | none => .error .misuse
    | some name => do
      let command ← Command.read name behind
      if stray then throw .misuse
      return { i with command }

/-- What arguments ask for. -/
def read (arguments : List Text) : Except Interruption Invocation :=
  ofEvents {} false (ProgramOption.table.read arguments)

end Invocation
end Signet
