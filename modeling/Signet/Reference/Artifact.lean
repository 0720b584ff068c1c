import Signet.Reference.Repository
import Signet.Text.Word

/-!
# Artifacts

An artifact is named by its repository and the digest of its manifest. A tag between the
two is checked and then left out. Signed material of an artifact is kept under tags that
are made of its digest.
-/
namespace Signet

namespace Digest

/-- The count of hexadecimal digits of each supported algorithm. -/
def hexLength? (algorithm : Text) : Option Nat :=
  if algorithm = "sha256" then some 64
  else if algorithm = "sha384" then some 96
  else if algorithm = "sha512" then some 128
  else none

def isHexCharacter (c : CodePoint) : Bool := c.isAsciiDigit || (0x61 ≤ c.val && c.val ≤ 0x66)

/-- A digest names a supported algorithm and has as many digits as it needs. -/
def validate (digest : Text) : Except ReferenceError Unit :=
  match digest.cut? ':' with
  | none => .error (.unsupportedAlgorithm digest)
  | some (algorithm, hex) =>
    match hexLength? algorithm with
    | none => .error (.unsupportedAlgorithm digest)
    | some length =>
      if hex.length = length ∧ hex.all isHexCharacter = true then .ok ()
      else .error (.invalidDigest digest algorithm)

end Digest

namespace Grammar

/-- A character of a tag behind the first one. -/
def isTagCharacter (c : CodePoint) : Bool := c.isWord || c = '.' || c = '-'

/-- A word character and at most 127 more, dots and hyphens among them. -/
def isTag : Text → Bool
  | [] => false
  | c :: rest => c.isWord && rest.length ≤ 127 && rest.all isTagCharacter

end Grammar

/-- An artifact: a repository and the digest of a manifest there. -/
structure Artifact where
  repository : Repository
  digest : Text
deriving DecidableEq, Repr

namespace Artifact

def toText (a : Artifact) : Text := a.repository.toText ++ "@" ++ a.digest

/-- The name without its tag. A colon behind the last slash starts a tag. -/
def splitTag (name : Text) : Text × Option Text :=
  match name.cutLast? ':' with
  | some (before, tag) => if ('/' : CodePoint) ∈ tag then (name, none) else (before, some tag)
  | none => (name, none)

/-- The artifact of a reference. The digest is checked first, then the tag, then the name. -/
def parse (reference : Text) : Except ReferenceError Artifact :=
  match reference.cut? '@' with
  | none => .error (.withoutDigest reference)
  | some (name, digest) => do
    Digest.validate digest
    let (name, tag) := splitTag name
    match tag with
    | some tag =>
      if !Grammar.isTag (Grammar.line tag) then throw (.invalidTag tag reference)
    | none => pure ()
    let repository ← Repository.parse name
    return ⟨repository, digest⟩

/-- The algorithm of the digest, the whole text if it has no colon. -/
def algorithm (a : Artifact) : Text :=
  match a.digest.cut? ':' with
  | some (algorithm, _) => algorithm
  | none => a.digest

/-- The digits of the digest; none if it has no colon. -/
def hex? (a : Artifact) : Option Text := (a.digest.cut? ':').map Prod.snd

/-- The tag that keeps signed material with the given suffix. -/
def tag? (a : Artifact) (suffix : Text) : Option Text :=
  a.hex?.map fun hex => a.algorithm ++ "-" ++ hex ++ "." ++ suffix

end Artifact
end Signet
