import Signet.Json.Basic

/-!
# In-toto statements

What an attestation states about its subjects. A statement has a fixed type, a list of
subjects, a predicate type and maybe a predicate; each subject is identified by a location,
digests or its content. Properties that are empty count as absent.
-/
namespace Signet

/-- Why a value is not a statement. -/
inductive StatementError where
  | notObject
  | missing (name : Text)
  | wrongType
  | subjectNotList
  | subjectNotObject
  | subjectNotIdentified
  | invalidProperty (key : Text)
  | predicateTypeNotText
  | predicateNotObject
deriving DecidableEq, Repr

namespace Statement

/-- The type of statements of the first version. -/
def typeName : Text := "https://in-toto.io/Statement/v1"

end Statement

def StatementError.message : StatementError → Text
  | .notObject => "The statement is not a JSON object."
  | .missing name =>
    "The attribute '" ++ name ++ "' of the in-toto statement is missing."
  | .wrongType =>
    "The value of attribute '_type' in the in-toto statement must be: '" ++ Statement.typeName ++
      "'"
  | .subjectNotList =>
    "The value of attribute 'subject' in the in-toto statement is invalid: expecting a list."
  | .subjectNotObject => "A subject in the in-toto statement is invalid: expecting an object."
  | .subjectNotIdentified =>
    "One of 'uri', 'digest', or 'content' must be present and valid within 'subject'."
  | .invalidProperty key => "The attribute " ++ key ++ " of the in-toto subject is invalid."
  | .predicateTypeNotText =>
    "The value of attribute 'predicateType' in the in-toto statement is invalid: " ++
      "expecting a string."
  | .predicateNotObject =>
    "The value attribute 'predicate' in the in-toto statement is invalid: expecting an object."

namespace Statement

/-- The algorithms that may key a digest set. -/
def digestAlgorithms : List Text :=
  ["sha256", "sha224", "sha384", "sha512", "sha512_224", "sha512_256", "sha3_224", "sha3_256",
   "sha3_384", "sha3_512", "shake128", "shake256", "blake2b", "blake2s", "ripemd160", "sm3",
   "gost", "sha1", "md5"]

/-- An object that maps known algorithms to texts. -/
def isDigestSet (v : Json) : Bool :=
  match v.members? with
  | some members =>
    members.all fun p => digestAlgorithms.contains p.1 && p.2.hasShape .text
  | none => false

/-- The property is present. One that is present has to be valid. -/
def property (subject : Json.Members) (key : Text) (valid : Json → Bool) :
    Except StatementError Bool :=
  match subject.get? key with
  | none => .ok false
  | some v =>
    if v.isBlank then .ok false else if valid v then .ok true else .error (.invalidProperty key)

/-- A subject is an object that is identified, with valid properties. -/
def checkSubject (v : Json) : Except StatementError Unit :=
  match v.members? with
  | none => .error .subjectNotObject
  | some subject => do
    let location ← property subject "uri" (Json.hasShape .text)
    let content ← property subject "content" (Json.hasShape .text)
    let digest ← property subject "digest" isDigestSet
    if !(location || content || digest) then throw .subjectNotIdentified
    let _ ← property subject "name" (Json.hasShape .text)
    let _ ← property subject "downloadLocation" (Json.hasShape .text)
    let _ ← property subject "mediaType" (Json.hasShape .text)
    let _ ← property subject "annotations" (Json.hasShape .object)

/-- A required attribute; null counts as missing. -/
def required (statement : Json.Members) (key : Text) : Except StatementError Json :=
  match statement.get? key with
  | none | some .null => .error (.missing key)
  | some v => .ok v

/-- The members of an object make a statement. -/
def check (statement : Json.Members) : Except StatementError Unit := do
  let type ← required statement "_type"
  if type.text? ≠ some typeName then throw .wrongType
  let subjects ← required statement "subject"
  match subjects.items? with
  | none => throw .subjectNotList
  | some subjects => subjects.forM checkSubject
  let predicateType ← required statement "predicateType"
  if !predicateType.hasShape .text then throw .predicateTypeNotText
  match statement.get? "predicate" with
  | none | some .null | some (.object _) => pure ()
  | some _ => throw .predicateNotObject

def ofJson (v : Json) : Except StatementError Json.Members :=
  match v.members? with
  | none => .error .notObject
  | some members => (check members).map fun _ => members

end Statement
end Signet
