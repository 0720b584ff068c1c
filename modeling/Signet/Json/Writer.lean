import Signet.Json.Basic
import Signet.Text.Utf8

/-!
# Written JSON

One value has one written form: members in the order of their keys, no white space,
characters beyond ASCII as they are. The canonical bytes of a value are the UTF-8 form of
that text. Numbers that are not finite, integers that are too long and surrogates have
none, and the first such fault in the written order is told.
-/
namespace Signet

namespace Json

/-- One character of a written text. -/
def writeCharacter (c : CodePoint) : Text :=
  if c = '"' then "\\\""
  else if c = '\\' then "\\\\"
  else if c.val < 0x20 then
    if c = '\n' then "\\n"
    else if c = '\r' then "\\r"
    else if c = '\t' then "\\t"
    else if c.val = 0x0C then "\\f"
    else if c.val = 0x08 then "\\b"
    else "\\u" ++ Hex.fixed 4 c.val
  else [c]

def writeText (t : Text) : Text := "\"" ++ t.flatMap writeCharacter ++ "\""

/-- A written number; the three that are not finite have names. -/
def writeFloat (x : Binary64) : Text :=
  match x.toText? with
  | some t => t
  | none =>
    match x with
    | .infinite true => "-Infinity"
    | .infinite false => "Infinity"
    | _ => "NaN"

/-- Inserts a pair before the first one with a greater key. -/
def insertKey {α : Type} (pair : Text × α) : List (Text × α) → List (Text × α)
  | [] => [pair]
  | other :: rest =>
    if pair.1.le other.1 then pair :: other :: rest else other :: insertKey pair rest

/-- The pairs in the order of their keys. -/
def sortKeys {α : Type} : List (Text × α) → List (Text × α)
  | [] => []
  | pair :: rest => insertKey pair (sortKeys rest)

/-- Written members, in the given order. -/
def joinMembers (members : List (Text × Text)) : Text :=
  Text.join "," (members.map fun p => writeText p.1 ++ ":" ++ p.2)

mutual

def write : Json → Text
  | .null => "null"
  | .bool true => "true"
  | .bool false => "false"
  | .int n => Decimal.ofInt n
  | .float x => writeFloat x
  | .text t => writeText t
  | .array items => "[" ++ Text.join "," (writeItems items) ++ "]"
  | .object members => "\x7b" ++ joinMembers (sortKeys (writeMembers members)) ++ "\x7d"

def writeItems : List Json → List Text
  | [] => []
  | v :: rest => write v :: writeItems rest

/-- The written forms of the values of members. -/
def writeMembers : List (Text × Json) → List (Text × Text)
  | [] => []
  | (k, v) :: rest => (k, write v) :: writeMembers rest

end

end Json

/-- Why a value has no canonical form. -/
inductive CanonicalFault where
  | notFinite
  | integerTooLong
  | surrogates (e : EncodeError)
deriving DecidableEq, Repr

def CanonicalFault.message : CanonicalFault → Text
  | .notFinite => "Out of range float values are not JSON compliant"
  | .integerTooLong =>
    "Exceeds the limit (4300 digits) for integer string conversion; " ++
      "use sys.set_int_max_str_digits() to increase the limit"
  | .surrogates e => e.message

namespace Json

mutual

/-- The first number of a value, in the written order, that cannot be written. -/
def numberFault? : Json → Option CanonicalFault
  | .int n => if Decimal.maxDigits < Decimal.digitCount n.natAbs then some .integerTooLong else none
  | .float (.finite _ _ _) => none
  | .float _ => some .notFinite
  | .array items => itemsFault? items
  | .object members => (sortKeys (memberFaults members)).findSome? fun p => p.2
  | _ => none

/-- The first number of items that cannot be written. -/
def itemsFault? : List Json → Option CanonicalFault
  | [] => none
  | v :: rest => (numberFault? v).or (itemsFault? rest)

/-- The first faults of the values of members. -/
def memberFaults : List (Text × Json) → List (Text × Option CanonicalFault)
  | [] => []
  | (k, v) :: rest => (k, numberFault? v) :: memberFaults rest

end

def canonical (v : Json) : Except CanonicalFault Bytes :=
  match numberFault? v with
  | some fault => .error fault
  | none => (Utf8.encode (write v)).mapError .surrogates

/-- A character beyond ASCII by its number, as one or two escapes. -/
def asciiCharacter (c : CodePoint) : Text :=
  if c.val < 0x80 then [c]
  else if c.val < 0x10000 then "\\u" ++ Hex.fixed 4 c.val
  else
    "\\u" ++ Hex.fixed 4 (0xD800 + (c.val - 0x10000) / 0x400) ++
      "\\u" ++ Hex.fixed 4 (0xDC00 + (c.val - 0x10000) % 0x400)

/-- The written form with ASCII characters only; characters beyond occur in texts alone,
where escapes stand for them. -/
def writeAscii (v : Json) : Text := (write v).flatMap asciiCharacter

end Json
end Signet
