import Signet.Json.Reader
import Signet.Text.Utf8
import Signet.Text.Wide

/-!
# JSON documents as bytes

The encoding of a document shows in its first bytes: a byte order mark, or the places of
the zero bytes, since the first two characters of a document are ASCII. Encoded surrogates
are accepted in every encoding.
-/
namespace Signet

/-- Why bytes are no JSON document. -/
inductive DocumentError where
  | undecodable (e : DecodeError)
  | refused (e : JsonError)
deriving DecidableEq, Repr

def DocumentError.message : DocumentError → Text
  | .undecodable e => e.message
  | .refused e => e.message

namespace Json

/-- The encoding of a document and the length of its byte order mark. -/
def detect (bytes : Bytes) : Encoding × Nat :=
  if [0xFF, 0xFE, 0, 0].isPrefixOf bytes then (.utf32le, 4)
  else if [0, 0, 0xFE, 0xFF].isPrefixOf bytes then (.utf32be, 4)
  else if [0xFF, 0xFE].isPrefixOf bytes then (.utf16le, 2)
  else if [0xFE, 0xFF].isPrefixOf bytes then (.utf16be, 2)
  else if [0xEF, 0xBB, 0xBF].isPrefixOf bytes then (.utf8, 3)
  else
    match bytes with
    | a :: b :: c :: d :: _ =>
      if a = 0 then (if b = 0 then .utf32be else .utf16be, 0)
      else if b = 0 then (if c = 0 ∧ d = 0 then .utf32le else .utf16le, 0)
      else (.utf8, 0)
    | [a, b] => (if a = 0 then .utf16be else if b = 0 then .utf16le else .utf8, 0)
    | _ => (.utf8, 0)

/-- The text of a document. Positions in UTF-8 count from behind the byte order mark. -/
def decode (bytes : Bytes) : Except DecodeError Text :=
  let (encoding, mark) := detect bytes
  let content := bytes.drop mark
  match encoding with
  | .utf8 => Utf8.strict 0 (Utf8.joinSurrogates (Utf8.items content))
  | .utf16le => Wide.decode16 false mark content
  | .utf16be => Wide.decode16 true mark content
  | .utf32le => Wide.decode32 false mark content
  | .utf32be => Wide.decode32 true mark content

def readBytes (bytes : Bytes) : Except DocumentError Json :=
  match decode bytes with
  | .error e => .error (.undecodable e)
  | .ok t => (read t).mapError .refused

end Json
end Signet
