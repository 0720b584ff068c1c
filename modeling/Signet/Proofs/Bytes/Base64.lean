import Mathlib
import Signet.Bytes.Base64
import Signet.Proofs.Text.Decoded

/-!
# Base64 read back

Four digits are three bytes again, and a group that is filled up is one byte or two. So a text
in base64 is decoded to the bytes that it was made of, whatever their count leaves over.

## Main definitions

* `Base64.decode?` — the bytes of a text in base64, none if it is not made of such groups.
-/
namespace Signet
namespace Base64

/-- The bytes of the last group, which is filled up with one or two equality signs. -/
def lastGroup? (a b c : CodePoint) : Option Bytes := do
  let a ← digitValue? a
  let b ← digitValue? b
  let first := (a * 4 + b / 16).toUInt8
  if c = '=' then return [first]
  else
    let c ← digitValue? c
    return [first, (b % 16 * 16 + c / 4).toUInt8]

/-- The bytes of a text: groups of four digits, of which the last one may be filled up. -/
def decode? : Text → Option Bytes
  | [] => some []
  | a :: b :: c :: d :: rest =>
    if d = '=' then if rest = [] then lastGroup? a b c else none
    else do
      let x ← digitValue? a
      let y ← digitValue? b
      let z ← digitValue? c
      let w ← digitValue? d
      let bytes ← decode? rest
      return (x * 4 + y / 16).toUInt8 :: (y % 16 * 16 + z / 4).toUInt8 ::
        (z % 4 * 64 + w).toUInt8 :: bytes
  | _ => none

theorem digitValue?_digit {n : Nat} (h : n < 64) : digitValue? (digit n) = some n := by
  have hall : ∀ n < 64, digitValue? (digit n) = some n := by decide
  exact hall n h

theorem digit_ne_padding {n : Nat} (h : n < 64) : digit n ≠ '=' := by
  have hall : ∀ n < 64, digit n ≠ CodePoint.ofChar '=' := by decide
  exact hall n h

theorem decode?_one {x y : Nat} (hx : x < 64) (hy : y < 64) :
    decode? [digit x, digit y, '=', '='] = some [(x * 4 + y / 16).toUInt8] := by
  rw [decode?, if_pos rfl, if_pos rfl, lastGroup?, digitValue?_digit hx, digitValue?_digit hy]
  rfl

theorem decode?_two {x y z : Nat} (hx : x < 64) (hy : y < 64) (hz : z < 64) :
    decode? [digit x, digit y, digit z, '='] =
      some [(x * 4 + y / 16).toUInt8, (y % 16 * 16 + z / 4).toUInt8] := by
  rw [decode?, if_pos rfl, if_pos rfl, lastGroup?, digitValue?_digit hx, digitValue?_digit hy]
  simp only [Option.bind_eq_bind, Option.bind_some, if_neg (digit_ne_padding hz),
    digitValue?_digit hz]
  rfl

theorem decode?_three {x y z w : Nat} (hx : x < 64) (hy : y < 64) (hz : z < 64) (hw : w < 64)
    {rest : Text} {bytes : Bytes} (h : decode? rest = some bytes) :
    decode? (digit x :: digit y :: digit z :: digit w :: rest) =
      some ((x * 4 + y / 16).toUInt8 :: (y % 16 * 16 + z / 4).toUInt8 ::
        (z % 4 * 64 + w).toUInt8 :: bytes) := by
  rw [decode?, if_neg (digit_ne_padding hw), digitValue?_digit hx, digitValue?_digit hy,
    digitValue?_digit hz, digitValue?_digit hw, h]
  rfl

theorem val_digit_lt (n : Nat) : (digit n).val < 0x80 := by
  rw [digit, CodePoint.val_ofNat]
  · split_ifs <;> omega
  · split_ifs <;> omega

/-- A text in base64 is ASCII. -/
theorem val_of_mem_encode (bytes : Bytes) : ∀ c ∈ encode bytes, c.val < 0x80 := by
  have hpadding : (CodePoint.ofChar '=').val < 0x80 := by decide
  fun_induction encode bytes with
  | case1 => simp
  | case2 a => simp [val_digit_lt]
  | case3 a b => simp [val_digit_lt]
  | case4 a b c rest ih => simpa [val_digit_lt] using ih

/-- Every byte sequence is read back from its base64 form. -/
theorem decode?_encode (bytes : Bytes) : decode? (encode bytes) = some bytes := by
  have hbyte {n : Nat} {b : UInt8} (h : n = b.toNat) : n.toUInt8 = b := Utf8.toUInt8_eq h
  fun_induction encode bytes with
  | case1 => rfl
  | case2 a =>
    have ha := a.toNat_lt
    rw [decode?_one (by omega) (by omega), hbyte (b := a) (by omega)]
  | case3 a b =>
    have ha := a.toNat_lt
    have hb := b.toNat_lt
    rw [decode?_two (by omega) (by omega) (by omega), hbyte (b := a) (by omega),
      hbyte (b := b) (by omega)]
  | case4 a b c rest ih =>
    have ha := a.toNat_lt
    have hb := b.toNat_lt
    have hc := c.toNat_lt
    rw [decode?_three (by omega) (by omega) (by omega) (by omega) ih, hbyte (b := a) (by omega),
      hbyte (b := b) (by omega), hbyte (b := c) (by omega)]

/-- Different bytes have different texts in base64. -/
theorem encode_injective : Function.Injective encode := by
  intro bytes bytes' h
  have hread := congrArg decode? h
  rw [decode?_encode, decode?_encode] at hread
  exact Option.some.inj hread

end Base64
end Signet
