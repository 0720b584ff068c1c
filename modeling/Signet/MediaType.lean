import Signet.Text.CodePoint

/-!
# Names of types and annotations

Media types of manifests, configurations and layers, artifact types of referrers, and the
keys of the annotations that signed material carries.
-/
namespace Signet
namespace MediaType

def imageManifest : Text := "application/vnd.oci.image.manifest.v1+json"
def imageIndex : Text := "application/vnd.oci.image.index.v1+json"
def imageConfig : Text := "application/vnd.oci.image.config.v1+json"
def emptyConfig : Text := "application/vnd.oci.empty.v1+json"
def dockerManifest : Text := "application/vnd.docker.distribution.manifest.v2+json"
def dockerManifestList : Text := "application/vnd.docker.distribution.manifest.list.v2+json"

/-- The manifests that are accepted when reading. -/
def manifests : List Text := [imageManifest, imageIndex, dockerManifest, dockerManifestList]

/-- Payloads of simple signatures. -/
def simpleSigning : Text := "application/vnd.dev.cosign.simplesigning.v1+json"

/-- Signed envelopes. -/
def envelope : Text := "application/vnd.dsse.envelope.v1+json"

/-- Statements inside envelopes. -/
def statement : Text := "application/vnd.in-toto+json"

/-- Signatures that refer to their subject. -/
def signatureArtifact : Text := "application/vnd.dev.cosign.artifact.sig.v1+json"

/-- Attestations that refer to their subject. -/
def attestationArtifact : Text := envelope

/-- Bundles that refer to their subject, and the one layer of each. -/
def bundle : Text := "application/vnd.dev.sigstore.bundle.v0.3+json"

/-- Content of no particular type. -/
def octetStream : Text := "application/octet-stream"

end MediaType

namespace AnnotationKey

def signature : Text := "dev.cosignproject.cosign/signature"
def certificate : Text := "dev.sigstore.cosign/certificate"
def chain : Text := "dev.sigstore.cosign/chain"
def bundleContent : Text := "dev.sigstore.bundle.content"
def bundlePredicateType : Text := "dev.sigstore.bundle.predicateType"

end AnnotationKey
end Signet
