import Signet.Remote.Client
import Signet.Storage.Kind

/-!
# Images of signed material

Signed material is kept in images whose layers are the signatures or attestations. An
image is found by a tag that is made of the digest of the artifact, or it names the
artifact as its subject. Reading gives the layers of a tag image; writing uploads the
configuration and every layer, and pushes the manifest last.
-/
namespace Signet

/-- Where an image is put: under a tag, or by its own digest with a subject. -/
inductive Placement where
  | tag (reference : Text)
  | subject (descriptor : Descriptor) (artifactType : Text) (annotations : Annotations)
deriving DecidableEq, Repr

namespace Placement

/-- Tag images list the digests of their layers in their configuration. -/
def config (layers : List Layer) : Placement → Json
  | .tag _ =>
    .object
      [("architecture", ""), ("os", ""), ("config", .object []),
       ("rootfs", .object
        [("type", "layers"), ("diff_ids", .array (layers.map fun l => .text l.digest))])]
  | .subject _ _ _ => .object []

def configType : Placement → Text
  | .tag _ => MediaType.imageConfig
  | .subject _ _ _ => MediaType.emptyConfig

/-- What a manifest says about its placement. -/
def members : Placement → Json.Members
  | .tag _ => []
  | .subject d artifactType annotations =>
    let subject : Descriptor := { mediaType := d.mediaType, digest := d.digest, size := d.size }
    let extra : Json.Members :=
      if annotations.isEmpty then [] else [("annotations", annotations.toJson)]
    [(("artifactType" : Text), Json.text artifactType), ("subject", subject.toJson)] ++ extra

/-- The reference that a manifest is pushed to. -/
def reference (manifest : Bytes) : Placement → Text
  | .tag reference => reference
  | .subject _ _ _ => sha256Digest manifest

end Placement

def imageManifest (placement : Placement) (config : Bytes) (layers : List Layer) : Json :=
  let descriptor : Descriptor :=
    { mediaType := placement.configType, digest := sha256Digest config, size := config.length }
  .object
    ([(("schemaVersion" : Text), Json.int 2), ("mediaType", .text MediaType.imageManifest),
      ("config", descriptor.toJson),
      ("layers", .array (layers.map fun l => l.descriptor.toJson))] ++ placement.members)

namespace Remote

def canonical (v : Json) : Remote Bytes :=
  match v.canonical with
  | .ok bytes => pure bytes
  | .error e => throw (.fault (.unwritable e))

/-- Uploads the contents of layers, in order. -/
def uploadLayers (o : RemoteOptions) (repository : Repository) : List Layer → Remote Unit
  | [] => pure ()
  | layer :: rest => do
    let _ ← uploadBlob o repository layer.content
    uploadLayers o repository rest

/-- Uploads what an image consists of and pushes its manifest. -/
def writeImage (o : RemoteOptions) (repository : Repository) (layers : List Layer)
    (placement : Placement) : Remote Text := do
  let config ← canonical (placement.config layers)
  let _ ← uploadBlob o repository config
  uploadLayers o repository layers
  let manifest ← canonical (imageManifest placement config layers)
  putManifest o repository (placement.reference manifest) manifest MediaType.imageManifest

/-- The annotations of a layer in a manifest, their values as texts. -/
def layerAnnotations (layer : Json.Members) : Annotations :=
  match (layer.get? "annotations").bind Json.members? with
  | some members => members.map fun p => (p.1, p.2.display)
  | none => []

/-- A text of a layer in a manifest, none if it is empty. -/
def layerText? (key : Text) (layer : Json.Members) : Option Text :=
  ((layer.get? key).bind Json.text?).filter fun t => !t.isEmpty

/-- One layer of an image, with its content. -/
def loadLayer (o : RemoteOptions) (repository : Repository) (tag : Text) (v : Json) :
    Remote Layer :=
  match v.members? with
  | none => fail (.invalidLayer repository tag)
  | some layer =>
    match layerText? "mediaType" layer, layerText? "digest" layer with
    | some mediaType, some digest => do
      let content ← getBlob o repository digest
      return { mediaType, content, annotations := layerAnnotations layer }
    | _, _ => fail (.incompleteLayer repository tag)

/-- The layers of an image, in order. -/
def loadEach (o : RemoteOptions) (repository : Repository) (tag : Text) :
    List Json → Remote (List Layer)
  | [] => pure []
  | v :: rest => do
    let layer ← loadLayer o repository tag v
    let layers ← loadEach o repository tag rest
    return layer :: layers

/-- The manifest of a tag image, none if there is no such tag. -/
def tagManifest? (o : RemoteOptions) (repository : Repository) (tag : Text) :
    Remote (Option Json.Members) :=
  Attempt.recover (do return some (← getManifest o repository tag).1) fun
    | .registry (.missing _ _) => .ok none
    | e => .error e

/-- The layers of a tag image; none if there is no such tag. -/
def loadLayers (o : RemoteOptions) (repository : Repository) (tag : Text) :
    Remote (List Layer) := do
  match ← tagManifest? o repository tag with
  | none => return []
  | some manifest =>
    match (manifest.get? "layers").bind Json.items? with
    | none => fail (.withoutLayers repository tag)
    | some layers => loadEach o repository tag layers

/-- The tag that keeps a kind of material of an artifact. -/
def tagFor (artifact : Artifact) (suffix : Text) : Remote Text :=
  match artifact.tag? suffix with
  | some tag => pure tag
  | none => throw (.fault .digestWithoutColon)

/-- The layers of a kind, if its suffix is asked for. -/
def loadKind (o : RemoteOptions) (artifact : Artifact) (suffixes : List Text) (kind : Kind) :
    Remote (List Layer) :=
  if kind.suffix ∈ suffixes then do
    let tag ← tagFor artifact kind.suffix
    loadLayers o artifact.repository tag
  else pure []

/-- The artifact with the material that is kept under its tags with the given suffixes. -/
def signedEntity (o : RemoteOptions) (artifact : Artifact)
    (suffixes : List Text := [Kind.signature.suffix, Kind.attestation.suffix]) :
    Remote SignedEntity := do
  let descriptor ← headManifest o artifact.repository artifact.digest
  let signatures ← loadKind o artifact suffixes .signature
  let attestations ← loadKind o artifact suffixes .attestation
  return { artifact, descriptor := some descriptor, signatures, attestations }

end Remote

def SignedEntity.layers (entity : SignedEntity) : Kind → List Layer
  | .signature => entity.signatures
  | .attestation => entity.attestations

/-- The entity with one more layer of a kind. -/
def SignedEntity.attach (entity : SignedEntity) (layer : Layer) : Kind → SignedEntity
  | .signature => entity.attachSignature layer
  | .attestation => entity.attachAttestation layer

/-- The artifact type of referrers that carry a kind. -/
def Kind.artifactType : Kind → Text
  | .signature => MediaType.signatureArtifact
  | .attestation => MediaType.attestationArtifact

namespace Remote

/-- Pushes the material of a kind to its tag. -/
def writeTagged (o : RemoteOptions) (repository : Repository) (entity : SignedEntity)
    (kind : Kind) : Remote Text := do
  let tag ← tagFor entity.artifact kind.suffix
  writeImage o repository (entity.layers kind) (.tag tag)

/-- The descriptor of a subject: that of a known entity, or else it is asked for. The
registry has to list referrers. -/
def subjectDescriptor (o : RemoteOptions) (artifact : Artifact) (entity : Option SignedEntity) :
    Remote Descriptor := do
  if !(← referrersSupported o artifact.repository artifact.digest) then
    fail (.withoutReferrers artifact.repository.registry)
  match (entity.filter SignedEntity.known).bind SignedEntity.descriptor with
  | some descriptor => return descriptor
  | none => headManifest o artifact.repository artifact.digest

/-- Pushes the material of a kind as a referrer of the artifact. -/
def writeReferrer (o : RemoteOptions) (artifact : Artifact) (entity : SignedEntity)
    (kind : Kind) : Remote Text := do
  let subject ← subjectDescriptor o artifact (some entity)
  writeImage o artifact.repository (entity.layers kind) (.subject subject kind.artifactType [])

/-- Pushes a bundle as a referrer of the artifact. -/
def writeBundle (o : RemoteOptions) (artifact : Artifact) (bundle : Bytes) (predicateType : Text) :
    Remote Text := do
  let subject ← subjectDescriptor o artifact none
  writeImage o artifact.repository [{ mediaType := MediaType.bundle, content := bundle }]
    (.subject subject MediaType.bundle
      [(AnnotationKey.bundleContent, "dsse-envelope"),
       (AnnotationKey.bundlePredicateType, predicateType)])

end Remote
end Signet
