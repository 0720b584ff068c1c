import Signet.Remote.Image
import Signet.Storage.Build

/-!
# Storing signed material

A store first decides the format, then resolves what is known of the artifact, and then
writes in the way of the format. Formats differ in where the material goes: to a tag, to a
referrer that carries all material of the kind, or to a referrer with one bundle.
-/
namespace Signet

/-- Work that stores. -/
abbrev Storing (α : Type) := Attempt StoreFailure α

structure StoreRequest where
  kind : Kind
  artifact : Artifact
  payload : Payload
  material : Material
deriving Repr, BEq

/-- How it is to be stored: the repository to use instead of that of the artifact, the
options of requests, and the identifier of a format. -/
structure StoreOptions where
  repository : Option Repository := none
  remote : RemoteOptions := {}
  format : Text := []
deriving DecidableEq, Repr

namespace Storing

/-- The format of an identifier. One that is unknown is told and means the oldest format; an
empty one or none means that format silently. -/
def route {ε : Type} (identifier : Option Text) : Attempt ε Format :=
  match identifier.filter fun t => !t.isEmpty with
  | none => pure .legacy
  | some t =>
    match Format.ofIdentifier? t with
    | some format => pure format
    | none => do
      Attempt.log .warning ("Unknown OCI format " ++ t ++ ", defaulting to legacy")
      return .legacy

/-- A failed stage of building. -/
def built {α : Type} (r : Except BuildError α) : Storing α :=
  Attempt.ofExcept (r.mapError fun e => .storage (.build e))

/-- A failure to write, in a stage. -/
def writeFailure (stage : WriteStage) : RemoteFailure → StoreFailure
  | .registry e => .storage (.write stage e)
  | .fault e => .fault e

/-- A failure to write as a referrer, in a stage. -/
def referrerFailure (stage : WriteStage) : RemoteFailure → StoreFailure
  | .registry (.withoutReferrers _) => .storage (.unsupported stage)
  | e => writeFailure stage e

/-- What is known of an artifact. One that does not exist is resolved to a placeholder. -/
def resolve (o : RemoteOptions) (artifact : Artifact)
    (suffixes : List Text := [Kind.signature.suffix, Kind.attestation.suffix]) :
    Storing SignedEntity :=
  (Remote.signedEntity o artifact suffixes).recover fun
    | .registry (.missing _ _) => .ok (.unknown artifact)
    | .registry e => .error (.storage (.resolution e))
    | .fault e => .error (.fault e)

/-- Adds the layer to the entity and pushes all material of the kind to its tag. -/
def storeLegacy (o : RemoteOptions) (q : StoreRequest) (entity : SignedEntity)
    (repository : Repository) : Storing Unit := do
  Attempt.log .info ("Using legacy tag-based " ++ q.kind.name ++ " storage")
  let layer ← built (q.material.layer q.kind)
  let _ ← (Remote.writeTagged o repository (entity.attach layer q.kind) q.kind).mapError
    (writeFailure (.tagged q.kind))
  Attempt.log .info ("Successfully uploaded " ++ q.kind.name ++ " using legacy format for " ++
    q.artifact.toText)

/-- Adds the layer to the entity and pushes all material of the kind as a referrer. -/
def storeReferrers (o : RemoteOptions) (q : StoreRequest) (entity : SignedEntity) :
    Storing Unit := do
  Attempt.log .info ("Using OCI 1.1 referrers API for " ++ q.kind.name ++ " storage")
  let layer ← built (q.material.layer q.kind)
  let _ ← (Remote.writeReferrer o q.artifact (entity.attach layer q.kind) q.kind).mapError
    (referrerFailure (.referrer q.kind))
  Attempt.log .info ("Successfully uploaded " ++ q.kind.name ++ " using referrers API for " ++
    q.artifact.toText)

/-- Pushes an envelope with the payload. Kinds without bundles are stored as referrers. -/
def storeBundle (o : RemoteOptions) (q : StoreRequest) (entity : SignedEntity) :
    Storing Unit := do
  if !q.kind.hasBundle then
    Attempt.log .warning ("The protobuf bundle format is not supported for " ++ q.kind.plural ++
      " yet, falling back to the referrers API")
    storeReferrers o q entity
  else
    Attempt.log .info ("Using protobuf bundle format for " ++ q.kind.name ++ " storage")
    let envelope ← built (Envelope.build q.payload q.material)
    let _ ← (Remote.writeBundle o q.artifact envelope.data envelope.predicateType).mapError
      (referrerFailure (.bundle q.kind))
    Attempt.log .info ("Successfully uploaded " ++ q.kind.name ++ " using protobuf bundle for " ++
      q.artifact.toText)

/-- Stores in the way of a format. Only tags can be put into another repository than that of
the artifact. -/
def storeAs (format : Format) (o : RemoteOptions) (q : StoreRequest) (entity : SignedEntity)
    (repository : Repository) : Storing Unit :=
  match format with
  | .legacy => storeLegacy o q entity repository
  | .referrers => storeReferrers o q entity
  | .bundle => storeBundle o q entity

/-- The suffixes of the tags that a store has to read. A bundle extends nothing. -/
def neededSuffixes (format : Format) (kind : Kind) : List Text :=
  if format = .bundle ∧ kind.hasBundle then [] else [kind.suffix]

/-- Stores with a client that may have options of its own. -/
def storeWith (remote : RemoteOptions) (o : StoreOptions) (q : StoreRequest) : Storing Unit := do
  let format ← route (some o.format)
  let entity ← resolve remote q.artifact (neededSuffixes format q.kind)
  storeAs format remote q entity (o.repository.getD q.artifact.repository)

def store (o : StoreOptions) (q : StoreRequest) : Storing Unit := storeWith o.remote o q

end Storing
end Signet
