import Signet.Text.Decimal

/-!
# Binary floating point numbers

Numbers with a fraction or an exponent are kept as 53-bit binary numbers. A decimal
numeral is read as the nearest of them, halfway cases to the even one. A number is written
with the fewest decimal digits that are read back as that number.
-/
namespace Signet

/-- A binary number: a sign and `mantissa * 2 ^ exponent`, an infinity, or no number. -/
inductive Binary64 where
  | finite (negative : Bool) (mantissa : Nat) (exponent : Int)
  | infinite (negative : Bool)
  | nan
deriving DecidableEq, Repr

namespace Binary64

def minExponent : Int := -1074

def maxExponent : Int := 971

def twoTo (n : Nat) : Nat := Nat.pow 2 n

def tenTo (n : Nat) : Nat := Nat.pow 10 n

/-- The least mantissa of 53 bits. -/
def leastWide : Nat := 0x10000000000000

/-- The quotient rounded to the nearest integer, halfway cases to the even one. -/
def roundDiv (num den : Nat) : Nat :=
  let q := num / den
  let r := num % den
  if 2 * r < den then q
  else if den < 2 * r then q + 1
  else if q % 2 = 0 then q else q + 1

/-- The greatest exponent at which a quotient has at least 53 bits before the point, or the
least exponent of all. -/
def exponentOf (num den : Nat) : Int :=
  let guess : Int := (Nat.log2 num : Int) - (Nat.log2 den : Int) - 52
  let small : Bool :=
    if 0 ≤ guess then num < leastWide * den * twoTo guess.toNat
    else num * twoTo (-guess).toNat < leastWide * den
  max minExponent (if small then guess - 1 else guess)

/-- The number nearest to a quotient with a positive divisor. -/
def ofQuotient (negative : Bool) (num den : Nat) : Binary64 :=
  let e := exponentOf num den
  let m :=
    if 0 ≤ e then roundDiv num (den * twoTo e.toNat) else roundDiv (num * twoTo (-e).toNat) den
  if num = 0 then .finite negative 0 minExponent
  else if m = 2 * leastWide then
    if e + 1 > maxExponent then .infinite negative else .finite negative leastWide (e + 1)
  else if e > maxExponent then .infinite negative
  else .finite negative m e

/-- The number nearest to `digits * 10 ^ scale`. Numerals far out of range are decided by
the position of their first digit, so no huge power is computed. -/
def ofDecimal (negative : Bool) (digits : Nat) (scale : Int) : Binary64 :=
  let magnitude : Int := Decimal.digitCount digits + scale
  if digits = 0 ∨ magnitude < -400 then .finite negative 0 minExponent
  else if magnitude > 400 then .infinite negative
  else if 0 ≤ scale then ofQuotient negative (digits * tenTo scale.toNat) 1
  else ofQuotient negative digits (tenTo (-scale).toNat)

def isZero : Binary64 → Bool
  | .finite _ m _ => m = 0
  | _ => false

/-- The numbers that are read as a given one lie between two bounds. The number and its
bounds are given as multiples of one unit, with a common divisor. -/
structure Interval where
  low : Nat
  value : Nat
  high : Nat
  den : Nat
  closed : Bool

/-- Half a step on either side; the step below a power of two is half as wide. -/
def interval (mantissa : Nat) (exponent : Int) : Interval :=
  let narrow := mantissa = leastWide ∧ minExponent < exponent
  let up := if 0 ≤ exponent then twoTo exponent.toNat else 1
  let den := if 0 ≤ exponent then 4 else 4 * twoTo (-exponent).toNat
  { low := (4 * mantissa - if narrow then 1 else 2) * up
    value := 4 * mantissa * up
    high := (4 * mantissa + 2) * up
    den := den
    closed := mantissa % 2 = 0 }

/-- The quotient `n / den` lies in the interval. -/
def Interval.holds (i : Interval) (num den : Nat) : Bool :=
  if i.closed then i.low * den ≤ num * i.den && num * i.den ≤ i.high * den
  else i.low * den < num * i.den && num * i.den < i.high * den

/-- The position of the first digit: the least `p` with `value < 10 ^ p`, found by counting up
from a bound below it. -/
def pointFrom : Nat → Int → Interval → Int
  | 0, p, _ => p
  | fuel + 1, p, i =>
    let below : Bool :=
      if 0 ≤ p then i.value < i.den * tenTo p.toNat else i.value * tenTo (-p).toNat < i.den
    if below then p else pointFrom fuel (p + 1) i

/-- Of the two neighbours on the grid of `count` digits the one that is read back, the nearer
one if both are; the halfway case goes to the even one. -/
def onGrid? (i : Interval) (point : Int) (count : Nat) : Option Nat :=
  let scale : Int := point - count
  let num := if 0 ≤ scale then i.value else i.value * tenTo (-scale).toNat
  let den := if 0 ≤ scale then i.den * tenTo scale.toNat else i.den
  let q := num / den
  let fits (n : Nat) : Bool :=
    if 0 ≤ scale then i.holds (n * tenTo scale.toNat) 1 else i.holds n (tenTo (-scale).toNat)
  if fits q && fits (q + 1) then some (roundDiv num den)
  else if fits q then some q
  else if fits (q + 1) then some (q + 1)
  else none

/-- The shortest decimal that is read back, searched from `count` digits on: the digits as a
number, and the power of ten of the last of them. -/
def shortestFrom : Nat → Nat → Interval → Int → Nat × Int
  | 0, count, i, point => ((onGrid? i point count).getD 0, point - count)
  | fuel + 1, count, i, point =>
    match onGrid? i point count with
    | some n => (n, point - count)
    | none => shortestFrom fuel (count + 1) i point

/-- The shortest decimal of a positive number. -/
def shortest (mantissa : Nat) (exponent : Int) : Nat × Int :=
  let i := interval mantissa exponent
  let log : Int := Nat.log2 mantissa + exponent
  shortestFrom 16 1 i (pointFrom 4 (log * 30103 / 100000 - 1) i)

def zeros (count : Nat) : Text := List.replicate count ('0' : Char)

/-- Positional notation is used when the point stands after at most sixteen digits, and
before at most three zeros. -/
def layout (digits : Nat) (scale : Int) : Text :=
  let all := Decimal.ofNat digits
  let text := all.dropEnd fun c => c = '0'
  let point : Int := all.length + scale
  if -4 < point ∧ point ≤ 0 then
    "0." ++ zeros (-point).toNat ++ text
  else if 0 < point ∧ point ≤ 16 then
    let n := point.toNat
    if text.length ≤ n then text ++ zeros (n - text.length) ++ ".0"
    else text.take n ++ "." ++ text.drop n
  else
    let e := point - 1
    let size := Decimal.ofNat e.natAbs
    let fraction : Text := if text.length = 1 then [] else "." ++ text.drop 1
    let sign : Text := if e < 0 then "e-" else "e+"
    text.take 1 ++ fraction ++ sign ++ zeros (2 - size.length) ++ size

/-- The text of a finite number, none for the others. -/
def toText? : Binary64 → Option Text
  | .finite negative m e =>
    let sign : Text := if negative then "-" else ""
    if m = 0 then some (sign ++ "0.0")
    else
      let (digits, scale) := shortest m e
      some (sign ++ layout digits scale)
  | _ => none

end Binary64
end Signet
