import Signet.Text.CodePoint

/-!
# Kinds and formats

Signed material comes in two kinds, and each kind can be stored in three formats. An
identifier that names no format means the oldest one, which every registry supports.
-/
namespace Signet

/-- The kinds of signed material. -/
inductive Kind where
  | attestation
  | signature
deriving DecidableEq, Repr

namespace Kind

def name : Kind → Text
  | .attestation => "attestation"
  | .signature => "signature"

def plural : Kind → Text
  | .attestation => "attestations"
  | .signature => "signatures"

/-- The suffix of the tags that keep the kind. -/
def suffix : Kind → Text
  | .attestation => "att"
  | .signature => "sig"

/-- Only attestations can be stored as bundles. -/
def hasBundle : Kind → Bool
  | .attestation => true
  | .signature => false

end Kind

/-- The formats in which signed material is stored. -/
inductive Format where
  /-- An image under a tag that is made of the digest of the artifact. -/
  | legacy
  /-- An image that names the artifact as its subject. -/
  | referrers
  /-- One bundle per attestation, which names the artifact as its subject. -/
  | bundle
deriving DecidableEq, Repr

namespace Format

def identifier : Format → Text
  | .legacy => "legacy"
  | .referrers => "referrers-api"
  | .bundle => "protobuf-bundle"

def ofIdentifier? (t : Text) : Option Format :=
  [Format.legacy, .referrers, .bundle].find? fun f => f.identifier = t

theorem ofIdentifier?_identifier (f : Format) : ofIdentifier? f.identifier = some f := by
  cases f <;> decide

end Format
end Signet
