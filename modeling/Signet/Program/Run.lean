import Signet.CommandLine.Usage
import Signet.Program.Ending

/-!
# Running the program

A run reads the arguments, loads the settings and performs the command. What the arguments
say takes precedence over the settings; the login for registries comes from the
environment. All files that a store needs are read before the first request is sent.
-/
namespace Signet

/-- What surrounds a run: files, whether the copy of a file is refused, and the variables of
the environment. -/
structure Surroundings where
  files : FileTree := {}
  refusal : Option CopyRefusal := none
  environment : Assoc Text Text := []
deriving DecidableEq, Repr

/-- A value that is given and not empty. -/
def Text.nonempty? (value : Option Text) : Option Text := value.filter fun t => !t.isEmpty

/-- The login that the variables of the environment give. Empty variables count as unset. -/
def RegistryLogin.ofEnvironment (environment : Assoc Text Text) : RegistryLogin :=
  let value (name : Text) : Option Text := Text.nonempty? (Assoc.lookup name environment)
  { username := value "PROVSTORE_REGISTRY_USERNAME"
    password := value "PROVSTORE_REGISTRY_PASSWORD"
    token := value "PROVSTORE_REGISTRY_TOKEN" }

namespace StoringArguments

/-- A configuration in which arguments take the place of settings. Plain connections can
only be switched on. -/
def override (a : StoringArguments) (c : StorageConfig) : StorageConfig :=
  { c with
    format := (Text.nonempty? a.format).getD c.format
    repository := (Text.nonempty? a.repository).or c.repository
    insecure := a.insecure || c.insecure }

def storeOptions (a : StoringArguments) (w : Surroundings) (c : StorageConfig) :
    Except CommandFailure StoreOptions :=
  (StoreOptions.ofConfig (a.override c) (.ofEnvironment w.environment)).mapError .reference

end StoringArguments

namespace Surroundings

/-- The content of a file that the command needs. -/
def input (w : Surroundings) (name : Text) : Except CommandFailure Bytes :=
  (w.files.read name).mapError .input

/-- The content of a file that may be left out. -/
def input? (w : Surroundings) (name : Option Text) : Except CommandFailure (Option Bytes) :=
  match Text.nonempty? name with
  | none => .ok none
  | some name => (w.input name).map some

/-- Content with the signature and the certificates that arguments name. -/
def material (w : Surroundings) (a : StoringArguments) (content : Bytes) :
    Except CommandFailure Material := do
  let signature ← w.input a.signature
  let certificate ← w.input? a.certificate
  let chain ← w.input? a.chain
  return { content, signature, certificate, chain }

end Surroundings

namespace StoringArguments

def artifact (a : StoringArguments) : Except CommandFailure Artifact :=
  (Artifact.parse a.image).mapError .reference

/-- The store of an attestation whose statement is in a file. -/
def attestation (a : StoringArguments) (w : Surroundings) (statement : Text) :
    Except CommandFailure StoreRequest := do
  let artifact ← a.artifact
  let content ← w.input statement
  let document ← (Json.readBytes content).mapError .document
  let statement ← (Statement.ofJson document).mapError .statement
  let material ← w.material a content
  return { kind := .attestation, artifact, payload := .json (.object statement), material }

/-- The store of a signature whose payload is in a file, or else is that of the artifact. -/
def signatureOf (a : StoringArguments) (w : Surroundings) (payload : Option Text) :
    Except CommandFailure StoreRequest := do
  let artifact ← a.artifact
  let simple := SimplePayload.ofArtifact artifact
  let content ←
    match Text.nonempty? payload with
    | some name => w.input name
    | none => simple.toBytes.mapError .payload
  let material ← w.material a content
  return { kind := .signature, artifact, payload := .simple simple, material }

/-- Stores, once the options of the store and then what is to be stored are found. -/
def store (a : StoringArguments) (w : Surroundings) (s : Settings)
    (request : Except CommandFailure StoreRequest) : Attempt CommandFailure Ending := do
  let config ← (StorageConfig.load s).mapError CommandFailure.ofConfig
  let options ← Attempt.ofExcept (a.storeOptions w config)
  let request ← Attempt.ofExcept request
  (Storing.store options request).mapError CommandFailure.ofStore
  return { code := .success, files := w.files }

end StoringArguments

namespace Program

/-- Ends an attempt that failed with the exit code of its failure, if there is one. -/
def settle (w : Surroundings) (attempt : Attempt CommandFailure Ending) :
    Attempt CommandFailure Ending :=
  tryCatch attempt fun e =>
    match e.ending? with
    | some (code, message) => do
      Attempt.log .error message
      return { code, files := w.files }
    | none => throw e

/-- Writes the default settings to a directory, or else to the current one. -/
def dump (w : Surroundings) (directory : Option Text) : Attempt CommandFailure Ending := do
  let here := w.files.currentName
  let (written, files) ← (Defaults.create w.files w.refusal (directory.getD here) here).mapError
    CommandFailure.output
  return { code := if written then .success else .cannotCreate, files }

def perform (w : Surroundings) (s : Settings) : Command → Attempt CommandFailure Ending
  | .storeAttestation a statement => settle w (a.store w s (a.attestation w statement))
  | .storeSignature a payload => settle w (a.store w s (a.signatureOf w payload))
  | .dumpDefaults directory => dump w directory

/-- Ends a run whose arguments ask for no command. -/
def interrupt (w : Surroundings) : Interruption → Ending
  | .help command => { code := .success, output := usage command, files := w.files }
  | .version => { code := .success, output := name ++ " " ++ version ++ "\n", files := w.files }
  | .misuse => { code := .misuse, files := w.files }

def run (w : Surroundings) (arguments : List Text) : Attempt CommandFailure Ending :=
  match Invocation.read arguments with
  | .error i => pure (interrupt w i)
  | .ok i =>
    match i.command with
    | none => pure { code := .usage, output := usage none, files := w.files }
    | some command =>
      match ({} : Settings).load w.files i.settings with
      | .ok s => perform w s command
      | .error e => do
        e.messages.forM (Attempt.log .error)
        Attempt.log .error "Exiting because the defaults configuration could not be loaded."
        return { code := .noInput, files := w.files }

/-- What a command without any arguments lacks first. -/
inductive LackingArgument where
  | directory
  | format
deriving DecidableEq, Repr

/-- Performs the command of a word without arguments. No command can do without, and a word
that is no command is refused. -/
def performWord (w : Surroundings) (t : Text) : Attempt LackingArgument Ending :=
  match CommandName.ofIdentifier? t with
  | some .dumpDefaults => throw .directory
  | some _ => throw .format
  | none => do
    Attempt.log .error (name ++ " does not support command option " ++ t ++ ".")
    return { code := .usage, files := w.files }

end Program
end Signet
