import Signet.Bytes.Sha256
import Signet.Json.Writer
import Signet.Reference.Artifact

/-!
# Signed entities

An artifact together with the signatures and attestations that are known for it. Content
is named by its digest; a layer is content with a type and annotations, and a descriptor
stands for content without holding it. Attaching a layer appends it unless a layer with
the same content and the same annotations is there.
-/
namespace Signet

/-- The digest of content. -/
def sha256Digest (content : Bytes) : Text := "sha256:" ++ Sha256.hexDigest content

/-- Annotations, in the order in which they were given; no key occurs twice. -/
abbrev Annotations := List (Text × Text)

def Annotations.toJson (annotations : Annotations) : Json :=
  .object (annotations.map fun p => (p.1, .text p.2))

/-- The same keys with the same values, in any order. -/
def Annotations.same (a b : Annotations) : Bool := Json.sortKeys a = Json.sortKeys b

/-- What stands for content: its type, digest and size. -/
structure Descriptor where
  mediaType : Text
  digest : Text
  size : Int
  annotations : Annotations := []
  artifactType : Option Text := none
deriving DecidableEq, Repr

/-- The descriptor as a JSON object; an empty artifact type and empty annotations are left out. -/
def Descriptor.toJson (d : Descriptor) : Json :=
  let artifactType : Json.Members :=
    match d.artifactType with
    | some t => if t.isEmpty then [] else [("artifactType", .text t)]
    | none => []
  let annotations : Json.Members :=
    if d.annotations.isEmpty then [] else [("annotations", d.annotations.toJson)]
  .object ([(("mediaType" : Text), Json.text d.mediaType), ("digest", .text d.digest),
    ("size", .int d.size)] ++ artifactType ++ annotations)

/-- A static signature or attestation: content with a type and annotations. -/
structure Layer where
  mediaType : Text
  content : Bytes
  annotations : Annotations := []
deriving DecidableEq, Repr

namespace Layer

def digest (l : Layer) : Text := sha256Digest l.content

def size (l : Layer) : Nat := l.content.length

/-- What stands for the layer in a manifest. -/
def descriptor (l : Layer) : Descriptor :=
  { mediaType := l.mediaType, digest := l.digest, size := l.size, annotations := l.annotations }

/-- Layers are alike if they have the same content and the same annotations; the type does
not count. -/
def alike (a b : Layer) : Bool := a.digest = b.digest && a.annotations.same b.annotations

/-- The layer at the end of the others, unless one of them is alike. -/
def appendTo (l : Layer) (layers : List Layer) : List Layer :=
  if layers.any fun other => other.alike l then layers else layers ++ [l]

end Layer

/-- An artifact and its signed material. It is known if it was fetched; an artifact that was
not found has a placeholder instead. -/
structure SignedEntity where
  artifact : Artifact
  descriptor : Option Descriptor := none
  signatures : List Layer := []
  attestations : List Layer := []
  known : Bool := true
deriving DecidableEq, Repr

namespace SignedEntity

/-- The placeholder of an artifact that was not found. -/
def unknown (artifact : Artifact) : SignedEntity := { artifact, known := false }

def attachSignature (entity : SignedEntity) (layer : Layer) : SignedEntity :=
  { entity with signatures := layer.appendTo entity.signatures }

def attachAttestation (entity : SignedEntity) (layer : Layer) : SignedEntity :=
  { entity with attestations := layer.appendTo entity.attestations }

end SignedEntity
end Signet
