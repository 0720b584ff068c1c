import Signet.Assoc
import Signet.CommandLine.Event

/-!
# Given options

The options of a command as they were given. A request for the usage interrupts the reading
of arguments, and so does a misuse.
-/
namespace Signet

inductive CommandName where
  | storeAttestation
  | storeSignature
  | dumpDefaults
deriving DecidableEq, Repr

namespace CommandName

/-- The commands in the order in which they are shown. -/
def all : List CommandName := [storeAttestation, storeSignature, dumpDefaults]

def identifier : CommandName → Text
  | storeAttestation => "store-attestation"
  | storeSignature => "store-signature"
  | dumpDefaults => "dump-defaults"

def ofIdentifier? (t : Text) : Option CommandName := all.find? fun c => c.identifier = t

end CommandName

/-- What ends the reading of arguments before there is a command to perform. -/
inductive Interruption where
  /-- The usage of the program or of a command is asked for. -/
  | help (command : Option CommandName)
  | version
  | misuse
deriving DecidableEq, Repr

/-- Options and values, each option with the value it was given last. Flags have an empty
value. -/
abbrev GivenOptions (α : Type) := Assoc α Text

/-- The options that events give to a command without words. The first one that interrupts
wins; otherwise nothing but options may be said. -/
def GivenOptions.ofEvents {α : Type} [DecidableEq α] (interrupts : α → Option Interruption) :
    GivenOptions α → List (Event α) → Except Interruption (GivenOptions α)
  | given, [] => .ok given
  | given, .option o value :: rest =>
    match interrupts o with
    | some i => .error i
    | none => ofEvents interrupts (Assoc.put o (value.getD []) given) rest
  | given, .word _ _ :: rest => do
    let _ ← ofEvents interrupts given rest
    throw .misuse
  | given, .stray _ :: rest => do
    let _ ← ofEvents interrupts given rest
    throw .misuse
  | _, .fault :: _ => .error .misuse

/-- The value of an option that has to be given. -/
def GivenOptions.require {α : Type} [DecidableEq α] (given : GivenOptions α) (o : α) :
    Except Interruption Text :=
  match Assoc.lookup o given with
  | some value => .ok value
  | none => .error .misuse

end Signet
