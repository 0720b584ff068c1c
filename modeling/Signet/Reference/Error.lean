import Signet.Text.CodePoint

/-!
# Faults of references

Why a name is not accepted as a repository, a digest or an artifact.
-/
namespace Signet

/-- Why a reference was refused. -/
inductive ReferenceError where
  | emptyName
  | invalidName (name : Text)
  | invalidRegistry (registry name : Text)
  | withoutDigest (reference : Text)
  | unsupportedAlgorithm (digest : Text)
  | invalidDigest (digest algorithm : Text)
  | invalidTag (tag reference : Text)
deriving DecidableEq, Repr

def ReferenceError.message : ReferenceError → Text
  | .emptyName => "The repository name is empty."
  | .invalidName name => "The repository name " ++ name ++ " is invalid."
  | .invalidRegistry registry name =>
    "The registry " ++ registry ++ " of repository " ++ name ++ " is invalid."
  | .withoutDigest reference => "The reference " ++ reference ++ " does not contain a digest."
  | .unsupportedAlgorithm digest => "The digest " ++ digest ++ " uses an unsupported algorithm."
  | .invalidDigest digest algorithm =>
    "The digest " ++ digest ++ " is not a valid " ++ algorithm ++ " digest."
  | .invalidTag tag reference =>
    "The tag " ++ tag ++ " of reference " ++ reference ++ " is invalid."

end Signet
