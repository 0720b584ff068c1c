import Signet.Settings.Defaults
import Signet.Storage.Store

/-!
# The storage configuration

What the settings say about storing: the format, a repository for signed material, and how
registries are talked to. An old switch chooses a format where none is given.
-/
namespace Signet

/-- The settings of the store. -/
structure StorageConfig where
  format : Text := []
  repository : Option Text := none
  insecure : Bool := false
  verifyTls : Bool := true
  timeout : Int := 30
deriving DecidableEq, Repr

/-- Why the settings of the store cannot be used. -/
inductive ConfigError where
  | invalidTimeout (e : IntegerError)
  | invalidBoolean (value : Text)
deriving DecidableEq, Repr

def ConfigError.message : ConfigError → Text
  | .invalidTimeout e =>
    "The \"timeout\" value in section [requests] of the .ini configuration file is invalid: " ++
      e.message
  | .invalidBoolean value =>
    "A boolean value in section [storage.oci] of the .ini configuration file is invalid: " ++
      "Not a boolean: " ++ value

/-- Why no storage configuration was loaded. -/
inductive ConfigFailure where
  | config (e : ConfigError)
  | interpolation (e : InterpolationError)
deriving DecidableEq, Repr

namespace StorageConfig

def sectionName : Text := "storage.oci"

def requestsName : Text := "requests"

/-- The truth value that a word stands for. -/
def boolean? (t : Text) : Option Bool :=
  if t ∈ (["1", "yes", "true", "on"] : List Text) then some true
  else if t ∈ (["0", "no", "false", "off"] : List Text) then some false
  else none

/-- The value of an option, with its references followed. -/
def value (s : Settings) (name option : Text) : Except ConfigFailure (Option Text) :=
  (s.get? name option).mapError .interpolation

/-- The truth value of an option of the store. -/
def boolean (s : Settings) (option : Text) : Except ConfigFailure (Option Bool) := do
  match ← value s sectionName option with
  | none => return none
  | some t =>
    match boolean? t.lower with
    | some b => return some b
    | none => throw (.config (.invalidBoolean t))

def timeoutOf (s : Settings) : Except ConfigFailure Int := do
  match ← value s requestsName "timeout" with
  | none => return 30
  | some t => (Decimal.readInt t).mapError fun e => .config (.invalidTimeout e)

/-- The value of an option of the store without white space around it, empty if there is none. -/
def text (s : Settings) (option : Text) : Except ConfigFailure Text :=
  (value s sectionName option).map fun t => (t.getD []).strip

/-- The format that the old switch means. -/
def switchFormat (on : Bool) : Format := if on then .bundle else .legacy

/-- The format, given the old switch. The switch counts only where no format is given. -/
def chooseFormat (format : Text) (switch : Option Bool) : Attempt ConfigFailure Text :=
  match switch with
  | none => pure format
  | some on =>
    if format ≠ [] then do
      Attempt.log .warning
        ("Both \"format\" and the deprecated \"referrers_api\" are set in section [storage.oci]; " ++
          "\"referrers_api\" is ignored.")
      return format
    else do
      Attempt.log .warning
        ("The \"referrers_api\" option in section [storage.oci] is deprecated, use \"format = " ++
          (switchFormat on).identifier ++ "\" instead.")
      return (switchFormat on).identifier

/-- The storage configuration of settings. -/
def load (s : Settings) : Attempt ConfigFailure StorageConfig := do
  let timeout ← Attempt.ofExcept (timeoutOf s)
  if !s.hasSection sectionName then return { timeout }
  let format ← Attempt.ofExcept (text s "format")
  let switch ← Attempt.ofExcept (boolean s "referrers_api")
  let insecure ← Attempt.ofExcept (boolean s "insecure")
  let verifyTls ← Attempt.ofExcept (boolean s "verify_tls")
  let format ← chooseFormat format switch
  let repository ← Attempt.ofExcept (text s "repository")
  return {
    format
    repository := if repository = [] then none else some repository
    insecure := insecure.getD false
    verifyTls := verifyTls.getD true
    timeout }

end StorageConfig

structure RegistryLogin where
  username : Option Text := none
  password : Option Text := none
  token : Option Text := none
deriving DecidableEq, Repr

/-- The options of a store, from its configuration and credentials. -/
def StoreOptions.ofConfig (c : StorageConfig) (login : RegistryLogin) :
    Except ReferenceError StoreOptions := do
  let repository ←
    match c.repository with
    | none | some [] => pure none
    | some name => (Repository.parse name).map some
  return {
    repository
    format := c.format
    remote :=
      { insecure := c.insecure
        verifyTls := c.verifyTls
        username := login.username
        password := login.password
        token := login.token
        timeout := c.timeout } }

end Signet
