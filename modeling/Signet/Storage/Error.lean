import Signet.Remote.Error
import Signet.Storage.Kind

/-!
# Failures of a store

A store fails in one of its stages, and the stage is part of the wording: the state of the
artifact cannot be fetched, the object cannot be built, or it cannot be written.
-/
namespace Signet

inductive BuildStage where
  | creating (kind : Kind)
  | marshalingStatement
  | marshalingEnvelope
deriving DecidableEq, Repr

def BuildStage.describe : BuildStage → Text
  | .creating kind => "creating " ++ kind.name
  | .marshalingStatement => "marshaling attestation"
  | .marshalingEnvelope => "marshaling DSSE envelope"

/-- Why an object cannot be built. -/
inductive BuildCause where
  | withoutSignature (kind : Kind)
  | invalidCertificate
  | invalidPredicateType
  | unwritable (fault : CanonicalFault)
deriving DecidableEq, Repr

def BuildCause.message : BuildCause → Text
  | .withoutSignature .attestation => "the bundle does not contain a signed envelope"
  | .withoutSignature .signature => "the bundle does not contain a signature"
  | .invalidCertificate => "the certificate chain is not PEM-encoded"
  | .invalidPredicateType => "the statement does not have a valid predicate type"
  | .unwritable fault => fault.message

structure BuildError where
  stage : BuildStage
  cause : BuildCause
deriving DecidableEq, Repr

/-- The ways of writing. -/
inductive WriteStage where
  | tagged (kind : Kind)
  | referrer (kind : Kind)
  | bundle (kind : Kind)
deriving DecidableEq, Repr

def WriteStage.describe : WriteStage → Text
  | .tagged kind => "writing " ++ kind.plural
  | .referrer kind => "writing " ++ kind.plural ++ " with referrers API"
  | .bundle kind => "writing " ++ kind.name ++ " with protobuf bundle"

inductive StorageError where
  /-- The signed state of the artifact cannot be fetched. -/
  | resolution (cause : RegistryError)
  /-- The object cannot be built. -/
  | build (e : BuildError)
  /-- The registry does not take the object. -/
  | write (stage : WriteStage) (cause : RegistryError)
  /-- The registry does not list referrers, which the format needs. -/
  | unsupported (stage : WriteStage)
deriving DecidableEq, Repr

namespace StorageError

/-- What to do about a registry that does not list referrers. -/
def migrationHint : Text :=
  "the registry does not support the OCI 1.1 referrers API; " ++
    "set \"format = legacy\" in the [storage.oci] section to use tag-based storage"

def stage : StorageError → Text
  | .resolution _ => "getting signed entity"
  | .build e => e.stage.describe
  | .write stage _ => stage.describe
  | .unsupported stage => stage.describe

def cause : StorageError → Text
  | .resolution e => e.message
  | .build e => e.cause.message
  | .write _ e => e.message
  | .unsupported _ => migrationHint

/-- The wording of the failure: the stage and the cause. -/
def message (e : StorageError) : Text := e.stage ++ ": " ++ e.cause

end StorageError

/-- Why a store did not succeed. -/
inductive StoreFailure where
  | storage (e : StorageError)
  | fault (e : Fault)
deriving DecidableEq, Repr

end Signet
