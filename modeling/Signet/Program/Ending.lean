import Signet.Files.Tree
import Signet.Json.Document
import Signet.Payload.Statement
import Signet.Settings.Storage

/-!
# Endings

How a run of the program ends: with an exit code, or with a failure that nothing turns into
one. An exit code tells what kind of thing went wrong.
-/
namespace Signet

inductive ExitCode where
  | success
  /-- The arguments are no command of the program. -/
  | misuse
  /-- A command, a reference or a setting is not valid. -/
  | usage
  /-- The statement is not valid. -/
  | dataError
  /-- A file cannot be read. -/
  | noInput
  /-- The registry lacks what the format needs. -/
  | unavailable
  /-- The store failed. -/
  | software
  /-- The file of default settings cannot be written. -/
  | cannotCreate
deriving DecidableEq, Repr

def ExitCode.number : ExitCode → Nat
  | success => 0
  | misuse => 2
  | usage => 64
  | dataError => 65
  | noInput => 66
  | unavailable => 69
  | software => 70
  | cannotCreate => 73

/-- Codes are told apart by the numbers that the program ends with. -/
theorem ExitCode.number_injective {a b : ExitCode} (h : a.number = b.number) : a = b := by
  cases a <;> cases b <;> simp_all [ExitCode.number]

/-- How a run ends: the exit code, what was printed, and the files as they are then. -/
structure Ending where
  code : ExitCode
  output : Text := []
  files : FileTree
deriving DecidableEq, Repr

/-- Why a command did not succeed. -/
inductive CommandFailure where
  | reference (e : ReferenceError)
  | configuration (e : ConfigError)
  | interpolation (e : InterpolationError)
  | input (e : FileError)
  | document (e : DocumentError)
  | statement (e : StatementError)
  | payload (e : CanonicalFault)
  | storage (e : StorageError)
  | fault (e : Fault)
  | output (e : FileError)
deriving DecidableEq, Repr

namespace CommandFailure

/-- A storage configuration that cannot be loaded. -/
def ofConfig : ConfigFailure → CommandFailure
  | .config e => .configuration e
  | .interpolation e => .interpolation e

def ofStore : StoreFailure → CommandFailure
  | .storage e => .storage e
  | .fault e => .fault e

def message : CommandFailure → Text
  | .reference e => e.message
  | .configuration e => e.message
  | .interpolation e => e.message
  | .input e => e.message
  | .document e => e.message
  | .statement e => e.message
  | .payload e => e.message
  | .storage e => e.message
  | .fault e => e.message
  | .output e => e.message

/-- The exit code of a failure and what is logged about it; none if the failure ends the
program without an exit code. -/
def ending? : CommandFailure → Option (ExitCode × Text)
  | .reference e => some (.usage, e.message)
  | .configuration e => some (.usage, e.message)
  | .input e =>
    match e.fault with
    | .nullCharacter | .unencodable _ => none
    | _ => some (.noInput, "Cannot read input file: " ++ e.message)
  | .document (.refused (.integerTooLong _)) => none
  | .document e => some (.dataError, "Invalid in-toto statement: " ++ e.message)
  | .statement e => some (.dataError, "Invalid in-toto statement: " ++ e.message)
  -- Whatever cannot be decoded is taken for a part of the statement.
  | .fault (.text (.undecodable reason)) =>
    some (.dataError, "Invalid in-toto statement: " ++ reason)
  | .storage (.unsupported stage) => some (.unavailable, (StorageError.unsupported stage).message)
  | .storage e => some (.software, e.message)
  | .interpolation _ | .payload _ | .fault _ | .output _ => none

end CommandFailure
end Signet
