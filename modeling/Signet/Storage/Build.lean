import Signet.Bytes.Base64
import Signet.Entity
import Signet.MediaType
import Signet.Payload.Simple
import Signet.Storage.Error
import Signet.Storage.Material

/-!
# Objects that are stored

A layer for each kind of material, and the envelope that carries a statement with its
signature. The same material always gives the same object.
-/
namespace Signet

/-- What was signed: a JSON value, or the payload of a simple signature. -/
inductive Payload where
  | json (v : Json)
  | simple (p : SimplePayload)
deriving Repr, BEq

namespace Material

/-- The annotations of a certificate: both are there if there is a certificate, and the chain
may be empty. -/
def certificateAnnotations (m : Material) (kind : Kind) : Except BuildError Annotations :=
  match m.certificate.filter fun b => !b.isEmpty with
  | none => .ok []
  | some certificate =>
    match Utf8.decode certificate, Utf8.decode (m.chain.getD []) with
    | .ok certificate, .ok chain =>
      .ok [(AnnotationKey.certificate, certificate), (AnnotationKey.chain, chain)]
    | _, _ => .error ⟨.creating kind, .invalidCertificate⟩

/-- The layer of the material. A signature layer holds what was signed, and the signature as
an annotation; an attestation layer holds the signed envelope. -/
def layer (m : Material) (kind : Kind) : Except BuildError Layer :=
  if m.signature.isEmpty then .error ⟨.creating kind, .withoutSignature kind⟩
  else
    (m.certificateAnnotations kind).map fun certificate =>
      match kind with
      | .attestation =>
        { mediaType := MediaType.envelope
          content := m.signature
          annotations := (AnnotationKey.signature, []) :: certificate }
      | .signature =>
        { mediaType := MediaType.simpleSigning
          content := m.content
          annotations := (AnnotationKey.signature, Base64.encode m.signature) :: certificate }

end Material

/-- A written envelope and the predicate type of the statement that it carries. -/
structure Envelope where
  data : Bytes
  predicateType : Text
deriving DecidableEq, Repr

namespace Envelope

/-- The statement in base64. -/
def encodePayload (v : Json) : Except CanonicalFault Text := v.canonical.map Base64.encode

/-- The predicate type of a statement, empty if it states none. -/
def predicateType? : Payload → Option Text
  | .json (.object members) =>
    match Json.Members.get? members "predicateType" with
    | none => some []
    | some v => v.text?
  | _ => none

/-- The envelope as a JSON value. The signature is carried as text. -/
def toJson (payload : Text) (signature : Bytes) : Json :=
  .object
    [("payloadType", .text MediaType.statement), ("payload", .text payload),
     ("signatures", .array
      [.object [("keyid", ""), ("sig", .text (Utf8.decodeLenient signature))]])]

/-- The envelope of a statement. -/
def build (payload : Payload) (material : Material) : Except BuildError Envelope :=
  match predicateType? payload, payload with
  | some predicateType, .json statement => do
    let encoded ← (encodePayload statement).mapError fun e => ⟨.marshalingStatement, .unwritable e⟩
    let data ← ((toJson encoded material.signature).canonical).mapError fun e =>
      ⟨.marshalingEnvelope, .unwritable e⟩
    return ⟨data, predicateType⟩
  | _, _ => .error ⟨.marshalingStatement, .invalidPredicateType⟩

end Envelope
end Signet
