import Signet.Text.Quoted
import Signet.Text.Blank
import Signet.Text.Digit

/-!
# Decimal integers

Integers are written without leading zeros. They are read with decimal digits of any
script, a sign, white space around them and single low lines between digits, up to a
limit on the count of digits.
-/
namespace Signet

namespace Decimal

/-- A natural number in decimal digits. -/
def ofNat (n : Nat) : Text := (Nat.toDigits 10 n).map CodePoint.ofChar

/-- An integer in decimal digits, with a sign if it is negative. -/
def ofInt (n : Int) : Text := if n < 0 then '-' :: ofNat n.natAbs else ofNat n.natAbs

/-- The count of decimal digits of a natural number. -/
def digitCount (n : Nat) : Nat := (Nat.toDigits 10 n).length

/-- The longest integers that are read and written. -/
def maxDigits : Nat := 4300

/-- The number that digit values spell after a number. -/
def value (start : Nat) (digits : List Nat) : Nat := digits.foldl (fun n d => 10 * n + d) start

end Decimal

/-- Why a text is not read as an integer. -/
inductive IntegerError where
  | notInteger (t : Text)
  | tooLong (digits : Nat)
deriving DecidableEq, Repr

def IntegerError.message : IntegerError → Text
  | .notInteger t => "invalid literal for int() with base 10: " ++ t.quoted.take 200
  | .tooLong digits =>
    "Exceeds the limit (4300 digits) for integer string conversion: value has " ++
      Decimal.ofNat digits ++ " digits; use sys.set_int_max_str_digits() to increase the limit"

namespace Decimal

/-- White space around integers: six ASCII characters, and all that is beyond ASCII. -/
def isMargin (c : CodePoint) : Bool := if c.val < 0x80 then c.isAsciiBlank else c.isBlank

/-- The digit values at the beginning of a text, single low lines between them, and what
follows; none if a low line does not stand between digits. -/
def scan (afterDigit : Bool) : Text → Option (List Nat × Text)
  | [] => some ([], [])
  | c :: rest =>
    match c.decimalValue? with
    | some d => (scan true rest).map fun r => (d :: r.1, r.2)
    | none =>
      if c = '_' then
        match rest with
        | next :: _ =>
          if afterDigit && next.decimalValue?.isSome then scan false rest else none
        | [] => none
      else some ([], c :: rest)

/-- The integer that a text spells. -/
def readInt (t : Text) : Except IntegerError Int :=
  let body := t.dropWhile isMargin
  let negative := body.head? == some '-'
  let unsigned := if negative || body.head? == some '+' then body.drop 1 else body
  match scan false unsigned with
  | none => .error (.notInteger t)
  | some (digits, rest) =>
    if digits.length > maxDigits then .error (.tooLong digits.length)
    else if digits.isEmpty || !rest.all isMargin then .error (.notInteger t)
    else
      let n : Int := value 0 digits
      .ok (if negative then -n else n)

end Decimal

end Signet
