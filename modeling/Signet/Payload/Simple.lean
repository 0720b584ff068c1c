import Signet.Json.Writer
import Signet.Reference.Artifact

/-!
# Simple signing payloads

What a signature of an image signs: the name of its repository, the digest of its manifest,
and metadata that is not verified.
-/
namespace Signet

structure SimplePayload where
  dockerReference : Text
  manifestDigest : Text
  optional : Json.Members := []
deriving Repr, BEq

namespace SimplePayload

/-- The type that a payload states. -/
def typeName : Text := "cosign container image signature"

def ofArtifact (image : Artifact) (optional : Json.Members := []) : SimplePayload :=
  ⟨image.repository.toText, image.digest, optional⟩

/-- The payload as a JSON value; empty metadata is written as null. -/
def toJson (p : SimplePayload) : Json :=
  .object
    [("critical", .object
      [("identity", .object [("docker-reference", .text p.dockerReference)]),
       ("image", .object [("docker-manifest-digest", .text p.manifestDigest)]),
       ("type", .text typeName)]),
     ("optional", if p.optional.isEmpty then .null else .object p.optional)]

/-- The bytes that are signed. -/
def toBytes (p : SimplePayload) : Except CanonicalFault Bytes := p.toJson.canonical

end SimplePayload
end Signet
