import Signet.Text.Encoding

/-!
# UTF-16 and UTF-32

Documents may come in units of two or four bytes, in either byte order. Surrogates that
form no pair are kept, so a fault is only an incomplete last unit, or a unit beyond the
last code point.
-/
namespace Signet
namespace Wide

/-- The number that bytes spell, the first one counting most. -/
def ofBigEndian (bytes : Bytes) : Nat := bytes.foldl (fun n b => 256 * n + b.toNat) 0

/-- The number that the bytes of a unit spell. -/
def ofUnit (big : Bool) (unit : Bytes) : Nat := ofBigEndian (if big then unit else unit.reverse)

/-- Pairs of surrogates become the code points that they spell. -/
def joinPairs : Text → Text
  | a :: b :: rest =>
    if a.isLeading && b.isTrailing then .ofPair a b :: joinPairs rest
    else a :: joinPairs (b :: rest)
  | t => t
termination_by t => t.length

/-- The units of two bytes, the bytes starting at a position. -/
def units16 (big : Bool) (position : Nat) : Bytes → Except DecodeError Text
  | a :: b :: rest =>
    (units16 big (position + 2) rest).map (.ofNat (ofUnit big [a, b]) :: ·)
  | [] => .ok []
  | stretch => .error ⟨if big then .utf16be else .utf16le, stretch, position, .truncated⟩

/-- The units of four bytes, the bytes starting at a position. -/
def units32 (big : Bool) (position : Nat) : Bytes → Except DecodeError Text
  | a :: b :: c :: d :: rest =>
    let n := ofUnit big [a, b, c, d]
    if n < 0x110000 then (units32 big (position + 4) rest).map (.ofNat n :: ·)
    else .error ⟨if big then .utf32be else .utf32le, [a, b, c, d], position, .outOfRange⟩
  | [] => .ok []
  | stretch => .error ⟨if big then .utf32be else .utf32le, stretch, position, .truncated⟩

/-- The text that units of two bytes spell. -/
def decode16 (big : Bool) (position : Nat) (bytes : Bytes) : Except DecodeError Text :=
  (units16 big position bytes).map joinPairs

/-- The text that units of four bytes spell. -/
def decode32 (big : Bool) (position : Nat) (bytes : Bytes) : Except DecodeError Text :=
  units32 big position bytes

end Wide
end Signet
