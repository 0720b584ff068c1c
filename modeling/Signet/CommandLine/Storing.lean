import Signet.CommandLine.Given

/-!
# Arguments of commands that store

Both commands need an artifact and the file of a signature. An attestation also needs the
file of its statement; a signature may come with the file of the signed payload.
-/
namespace Signet

inductive StoringOption where
  | help
  | image
  | certificate
  | chain
  | format
  | repository
  | insecure
  | statement
  | signature
  | payload
deriving DecidableEq, Repr

namespace StoringOption

/-- The options that the commands share. -/
def shared : List (Text × StoringOption) :=
  [("-h", help), ("--help", help), ("-i", image), ("--image", image), ("--cert", certificate),
   ("--chain", chain), ("--format", format), ("--repository", repository),
   ("--insecure", insecure)]

/-- Only the usage and the switch to plain connections come without a value. -/
def takesValue : StoringOption → Bool
  | help | insecure => false
  | _ => true

def attestationTable : OptionTable StoringOption :=
  ⟨shared ++ [(("--statement" : Text), statement), ("--signature", signature)], takesValue⟩

def signatureTable : OptionTable StoringOption :=
  ⟨shared ++ [(("--signature" : Text), signature), ("--payload", payload)], takesValue⟩

end StoringOption

/-- What commands that store are told: the artifact, the file of the signature, and what may
be left out. -/
structure StoringArguments where
  image : Text
  signature : Text
  certificate : Option Text := none
  chain : Option Text := none
  format : Option Text := none
  repository : Option Text := none
  insecure : Bool := false
deriving DecidableEq, Repr

/-- What the options of a command that stores say. -/
def StoringArguments.ofOptions (given : GivenOptions StoringOption) :
    Except Interruption StoringArguments := do
  return {
    image := ← given.require .image
    signature := ← given.require .signature
    certificate := Assoc.lookup .certificate given
    chain := Assoc.lookup .chain given
    format := Assoc.lookup .format given
    repository := Assoc.lookup .repository given
    insecure := (Assoc.lookup .insecure given).isSome }

end Signet
