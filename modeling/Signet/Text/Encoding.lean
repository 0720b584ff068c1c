import Signet.Text.Decimal

/-!
# Encodings and their faults

The Unicode encodings that documents arrive in, and what is said when bytes cannot be
decoded or a text cannot be encoded.
-/
namespace Signet

inductive Encoding where
  | utf8
  | utf16le
  | utf16be
  | utf32le
  | utf32be
deriving DecidableEq, Repr

def Encoding.name : Encoding → String
  | .utf8 => "utf-8"
  | .utf16le => "utf-16-le"
  | .utf16be => "utf-16-be"
  | .utf32le => "utf-32-le"
  | .utf32be => "utf-32-be"

/-- Why a stretch of bytes spells no character. -/
inductive DecodeFault where
  /-- No character starts with this byte. -/
  | start
  /-- The byte that follows cannot continue the character. -/
  | continuation
  /-- The bytes end inside a character. -/
  | unfinished
  /-- The bytes end inside a unit of two or four bytes. -/
  | truncated
  /-- The unit is beyond the last code point. -/
  | outOfRange
deriving DecidableEq, Repr

def DecodeFault.message : DecodeFault → String
  | .start => "invalid start byte"
  | .continuation => "invalid continuation byte"
  | .unfinished => "unexpected end of data"
  | .truncated => "truncated data"
  | .outOfRange => "code point not in range(0x110000)"

/-- Bytes that could not be decoded: the encoding, the malformed stretch, where it starts
and what is wrong with it. -/
structure DecodeError where
  encoding : Encoding
  stretch : Bytes
  position : Nat
  fault : DecodeFault
deriving DecidableEq, Repr

/-- The wording of the fault names the stretch by its byte or by its bounds. -/
def DecodeError.message (e : DecodeError) : Text :=
  let place : Text :=
    match e.stretch with
    | [b] => "byte 0x" ++ Hex.fixed 2 b.toNat ++ " in position " ++ Decimal.ofNat e.position
    | stretch =>
      "bytes in position " ++ Decimal.ofNat e.position ++ "-" ++
        Decimal.ofNat (e.position + stretch.length - 1)
  "'" ++ e.encoding.name ++ "' codec can't decode " ++ place ++ ": " ++ e.fault.message

/-- A run of surrogates in a text that was to be written: where it starts, how long it is
and the first of them. -/
structure EncodeError where
  position : Nat
  count : Nat
  first : CodePoint
deriving DecidableEq, Repr

/-- The wording of the fault shows a surrogate that stands alone, and the bounds of a run. -/
def EncodeError.message (e : EncodeError) : Text :=
  let place : Text :=
    if e.count = 1 then
      "character '" ++ "\\u" ++ Hex.fixed 4 e.first.val ++ "' in position " ++
        Decimal.ofNat e.position
    else
      "characters in position " ++ Decimal.ofNat e.position ++ "-" ++
        Decimal.ofNat (e.position + e.count - 1)
  "'utf-8' codec can't encode " ++ place ++ ": surrogates not allowed"

end Signet
