import Signet.Exchange.Request
import Signet.Json.Writer
import Signet.Reference.Repository
import Signet.Text.Decimal
import Signet.Url.Basic

/-!
# Failures of a registry

What a registry can do wrong, and the faults that keep a request from being made or an
answer from being understood.
-/
namespace Signet

/-- What was attempted when a registry refused. -/
inductive Attempted where
  | fetchManifest (repository : Repository) (reference : Text)
  | pushManifest (repository : Repository) (reference : Text)
  | fetchBlob (repository : Repository) (digest : Text)
  | checkBlob (repository : Repository) (digest : Text)
  | startUpload (repository : Repository)
  | uploadBlob (repository : Repository) (digest : Text)
  | queryReferrers (repository : Repository) (digest : Text)
deriving DecidableEq, Repr

/-- A manifest as it is named in messages. -/
def manifestName (repository : Repository) (reference : Text) : Text :=
  repository.toText ++ ":" ++ reference

def Attempted.describe : Attempted → Text
  | .fetchManifest repository reference => "fetch manifest " ++ manifestName repository reference
  | .pushManifest repository reference => "push manifest " ++ manifestName repository reference
  | .fetchBlob repository digest => "fetch blob " ++ digest ++ " from " ++ repository.toText
  | .checkBlob repository digest => "check blob " ++ digest ++ " in " ++ repository.toText
  | .startUpload repository => "start blob upload to " ++ repository.toText
  | .uploadBlob repository digest => "upload blob " ++ digest ++ " to " ++ repository.toText
  | .queryReferrers repository digest =>
    "query referrers of " ++ repository.toText ++ "@" ++ digest

inductive RegistryError where
  /-- No response came. -/
  | unreachable (method : Method) (url reason : Text)
  /-- The manifest does not exist. -/
  | missing (repository : Repository) (reference : Text)
  /-- The response has another status than it should. -/
  | refused (attempted : Attempted) (status : Int) (body : Text)
  | notJson (repository : Repository) (reference : Text)
  | notObject (repository : Repository) (reference : Text)
  | tampered (repository : Repository) (digest : Text)
  | withoutLayers (repository : Repository) (tag : Text)
  | invalidLayer (repository : Repository) (tag : Text)
  | incompleteLayer (repository : Repository) (tag : Text)
  /-- The registry does not list referrers. -/
  | withoutReferrers (registry : Text)
deriving DecidableEq, Repr

namespace RegistryError

/-- The most characters of a body that a message shows. -/
def shownCharacters : Nat := 200

/-- A status with the beginning of the body. -/
def describeAnswer (status : Int) (body : Text) : Text :=
  Text.strip ("status " ++ Decimal.ofInt status ++ " " ++ body.take shownCharacters)

def message : RegistryError → Text
  | .unreachable method url reason =>
    "Failed to send " ++ method.name ++ " request to " ++ url ++ ": " ++ reason
  | .missing repository reference =>
    "The manifest " ++ manifestName repository reference ++ " does not exist."
  | .refused attempted status body =>
    "Failed to " ++ attempted.describe ++ ": " ++ describeAnswer status body
  | .notJson repository reference =>
    "The manifest " ++ manifestName repository reference ++ " is not valid JSON."
  | .notObject repository reference =>
    "The manifest " ++ manifestName repository reference ++ " is not a JSON object."
  | .tampered repository digest =>
    "The content of blob " ++ digest ++ " in " ++ repository.toText ++ " does not match its digest."
  | .withoutLayers repository tag =>
    "The manifest " ++ manifestName repository tag ++ " does not have layers."
  | .invalidLayer repository tag =>
    "The manifest " ++ manifestName repository tag ++ " contains an invalid layer."
  | .incompleteLayer repository tag =>
    "A layer in the manifest " ++ manifestName repository tag ++ " misses its media type or digest."
  | .withoutReferrers registry => "The registry " ++ registry ++ " does not support referrers."

/-- The status of the response that failed, if there was one. -/
def status? : RegistryError → Option Int
  | .missing _ _ => some 404
  | .refused _ status _ => some status
  | _ => none

end RegistryError

/-- What is wrong with data, apart from what a registry does. -/
inductive Fault where
  /-- A number is no integer or too long. -/
  | integer (e : IntegerError)
  /-- A location cannot be resolved. -/
  | location (e : UrlError)
  /-- The body of a refusal cannot be read as text. -/
  | text (e : TextError)
  /-- A value has no canonical form. -/
  | unwritable (e : CanonicalFault)
  /-- A digest has no colon, so it has no digits. -/
  | digestWithoutColon
deriving DecidableEq, Repr

def Fault.message : Fault → Text
  | .integer e => e.message
  | .location e => e.message
  | .text e => e.message
  | .unwritable e => e.message
  | .digestWithoutColon => "list index out of range"

/-- Why work with a registry failed. -/
inductive RemoteFailure where
  | registry (e : RegistryError)
  | fault (e : Fault)
deriving DecidableEq, Repr

end Signet
