import Signet.Text.CodePoint

/-!
# Hexadecimal text

Bytes as pairs of small hexadecimal digits, and numbers with a fixed count of digits.
-/
namespace Signet
namespace Hex

/-- The small hexadecimal digit of a number below sixteen. -/
def digit (n : Nat) : CodePoint := Nat.digitChar n

/-- The last `width` hexadecimal digits of a number. -/
def fixed : Nat → Nat → Text
  | 0, _ => []
  | width + 1, n => fixed width (n / 16) ++ [digit (n % 16)]

/-- Two digits for each byte. -/
def encode (bytes : Bytes) : Text :=
  bytes.flatMap fun b => [digit (b.toNat / 16), digit (b.toNat % 16)]

/-- The bytes of a text of digit pairs. -/
def decode? : Text → Option Bytes
  | [] => some []
  | [_] => none
  | a :: b :: rest =>
    match a.hexValue?, b.hexValue?, decode? rest with
    | some x, some y, some bytes => some ((16 * x + y).toUInt8 :: bytes)
    | _, _, _ => none

@[simp] theorem length_fixed (width n : Nat) : (fixed width n).length = width := by
  induction width generalizing n with
  | zero => rfl
  | succ width ih => simp [fixed, ih]

end Hex
end Signet
