import Signet.Json.Basic

/-!
# Reading JSON

A document is one value with white space around it. Faults are found from left to right;
a fault keeps the rest of the document at which it stands, from which its position, line
and column follow. The names of the numbers that are not finite are accepted, escapes may
spell lone surrogates, and the last of several members with one key wins.
-/
namespace Signet

inductive JsonFault where
  | valueExpected
  | nameExpected
  | colonExpected
  | commaExpected
  | controlCharacter
  | unterminatedText
  | badEscape
  | badUnicodeEscape
  | extraData
  | byteOrderMark
deriving DecidableEq, Repr

def JsonFault.message : JsonFault → String
  | .valueExpected => "Expecting value"
  | .nameExpected => "Expecting property name enclosed in double quotes"
  | .colonExpected => "Expecting ':' delimiter"
  | .commaExpected => "Expecting ',' delimiter"
  | .controlCharacter => "Invalid control character at"
  | .unterminatedText => "Unterminated string starting at"
  | .badEscape => "Invalid \\escape"
  | .badUnicodeEscape => "Invalid \\uXXXX escape"
  | .extraData => "Extra data"
  | .byteOrderMark => "Unexpected UTF-8 BOM (decode using utf-8-sig)"

/-- Why a document was refused: a fault at a place, or an integer that is too long. -/
inductive JsonError where
  | malformed (fault : JsonFault) (position line column : Nat)
  | integerTooLong (digits : Nat)
deriving DecidableEq, Repr

/-- The wording names the line, the column and the position in the whole document. -/
def JsonError.message : JsonError → Text
  | .malformed fault position line column =>
    fault.message ++ ": line " ++ Decimal.ofNat line ++ " column " ++ Decimal.ofNat column ++
      " (char " ++ Decimal.ofNat position ++ ")"
  | .integerTooLong digits => (IntegerError.tooLong digits).message

namespace Json
namespace Reader

/-- A fault with the rest of the document where it stands. -/
inductive Mishap where
  | malformed (fault : JsonFault) (rest : Text)
  | integerTooLong (digits : Nat)
deriving DecidableEq, Repr

/-- What was read, and the rest of the document. -/
abbrev Result (α : Type) := Except Mishap (α × Text)

/-- White space between the parts of a document. -/
def isSpace (c : CodePoint) : Bool :=
  c.val == 0x20 || c.val == 0x09 || c.val == 0x0A || c.val == 0x0D

/-- The document from the next part on. -/
def skipSpace (t : Text) : Text := t.dropWhile isSpace

/-- The number that four hexadecimal digits spell. -/
def hex4? (a b c d : CodePoint) : Option Nat :=
  match a.hexValue?, b.hexValue?, c.hexValue?, d.hexValue? with
  | some a, some b, some c, some d => some (((a * 16 + b) * 16 + c) * 16 + d)
  | _, _, _, _ => none

/-- The character that an escape of one letter stands for. -/
def escaped? (c : CodePoint) : Option CodePoint :=
  if c = '"' ∨ c = '\\' ∨ c = '/' then some c
  else if c = 'b' then some (.ofNat 0x08)
  else if c = 'f' then some (.ofNat 0x0C)
  else if c = 'n' then some '\n'
  else if c = 'r' then some '\r'
  else if c = 't' then some '\t'
  else none

/-- The second half of a pair. It is looked for only if a character follows it. A
well-formed escape that closes no pair is left for the next step. -/
def trailing (leading : CodePoint) (rest : Text) : Result CodePoint :=
  match rest with
  | s :: u :: a :: b :: c :: d :: more =>
    if s = '\\' ∧ u = 'u' ∧ more ≠ [] then
      match hex4? a b c d with
      | none => .error (.malformed .badUnicodeEscape (rest.drop 1))
      | some n =>
        let second := CodePoint.ofNat n
        if second.isTrailing then .ok (.ofPair leading second, more) else .ok (leading, rest)
    else .ok (leading, rest)
  | _ => .ok (leading, rest)

/-- A character given by its number; `rest` starts at the letter of the escape. A character
has to follow the four digits. -/
def unicodeEscape (rest : Text) : Result CodePoint :=
  match rest.drop 1 with
  | a :: b :: c :: d :: more =>
    match hex4? a b c d with
    | none => .error (.malformed .badUnicodeEscape rest)
    | some n =>
      if more.isEmpty then .error (.malformed .badUnicodeEscape rest)
      else if (CodePoint.ofNat n).isLeading then trailing (.ofNat n) more
      else .ok (.ofNat n, more)
  | _ => .error (.malformed .badUnicodeEscape rest)

/-- One step inside a text: its next character, or its end. A missing end is told at the
opening quotation mark. -/
def character (opening : Text) : Text → Result (Option CodePoint)
  | [] => .error (.malformed .unterminatedText opening)
  | c :: rest =>
    if c = '"' then .ok (none, rest)
    else if c.val < 0x20 then .error (.malformed .controlCharacter (c :: rest))
    else if c = '\\' then
      match rest with
      | [] => .error (.malformed .unterminatedText opening)
      | e :: more =>
        if e = 'u' then (unicodeEscape rest).map fun r => (some r.1, r.2)
        else
          match escaped? e with
          | some d => .ok (some d, more)
          | none => .error (.malformed .badEscape (c :: rest))
    else .ok (some c, rest)

/-- The characters of a text up to its end. -/
def characters (opening : Text) : Nat → Text → Result Text
  | 0, rest => .error (.malformed .unterminatedText rest)
  | fuel + 1, rest =>
    match character opening rest with
    | .error e => .error e
    | .ok (none, rest) => .ok ([], rest)
    | .ok (some c, rest) => (characters opening fuel rest).map fun r => (c :: r.1, r.2)

/-- A text, from its opening quotation mark on. -/
def text (t : Text) : Result Text := characters t t.length (t.drop 1)

/-- Digits before the point: a zero, or digits that do not start with one. -/
def whole? (t : Text) : Option (Text × Text) :=
  match t with
  | [] => none
  | c :: rest =>
    if c = '0' then some ([c], rest)
    else if c.isAsciiDigit then
      some (c :: rest.takeWhile CodePoint.isAsciiDigit, rest.dropWhile CodePoint.isAsciiDigit)
    else none

/-- A point and the digits after it; no digits if there is no point before a digit. -/
def fraction (t : Text) : Text × Text :=
  match t with
  | c :: rest =>
    let digits := rest.takeWhile CodePoint.isAsciiDigit
    if c = '.' ∧ digits ≠ [] then (digits, rest.dropWhile CodePoint.isAsciiDigit) else ([], t)
  | [] => ([], t)

/-- The number that ASCII digits spell. -/
def digitsValue (digits : Text) : Nat := Decimal.value 0 (digits.map fun c => c.val - 0x30)

/-- An exponent: a letter, a sign or none, and digits. -/
def exponent (t : Text) : Option Int × Text :=
  match t with
  | c :: rest =>
    let negative := rest.head? == some '-'
    let unsigned := if negative || rest.head? == some '+' then rest.drop 1 else rest
    let digits := unsigned.takeWhile CodePoint.isAsciiDigit
    if (c = 'e' ∨ c = 'E') ∧ digits ≠ [] then
      let n : Int := digitsValue digits
      (some (if negative then -n else n), unsigned.dropWhile CodePoint.isAsciiDigit)
    else (none, t)
  | [] => (none, t)

/-- A number: an integer, or a binary number if it has a fraction or an exponent. -/
def number (t : Text) : Result Json :=
  let negative := t.head? == some '-'
  match whole? (if negative then t.drop 1 else t) with
  | none => .error (.malformed .valueExpected t)
  | some (whole, rest) =>
    let (decimals, rest) := fraction rest
    let (power, rest) := exponent rest
    if decimals = [] ∧ power = none then
      if whole.length > Decimal.maxDigits then .error (.integerTooLong whole.length)
      else
        let n : Int := digitsValue whole
        .ok (.int (if negative then -n else n), rest)
    else
      let x := Binary64.ofDecimal negative (digitsValue (whole ++ decimals))
        (power.getD 0 - decimals.length)
      .ok (.float x, rest)

/-- The names of values. -/
def names : List (Text × Json) :=
  [("null", .null), ("true", .bool true), ("false", .bool false), ("NaN", .float .nan),
   ("Infinity", .float (.infinite false)), ("-Infinity", .float (.infinite true))]

/-- A named value or a number. -/
def scalar (t : Text) : Result Json :=
  match names.find? fun p => t.startsWith p.1 with
  | some (name, v) => .ok (v, t.drop name.length)
  | none => number t

mutual

/-- A value at the beginning of the rest. -/
def value : Nat → Text → Result Json
  | 0, t => .error (.malformed .valueExpected t)
  | fuel + 1, t =>
    match t with
    | [] => .error (.malformed .valueExpected t)
    | c :: rest =>
      if c = '"' then (text t).map fun r => (.text r.1, r.2)
      else if c = '\x7b' then
        let inner := skipSpace rest
        if inner.head? == some '\x7d' then .ok (.object [], inner.drop 1)
        else (members fuel [] inner).map fun r => (.object r.1, r.2)
      else if c = '[' then
        let inner := skipSpace rest
        if inner.head? == some ']' then .ok (.array [], inner.drop 1)
        else (items fuel inner).map fun r => (.array r.1, r.2)
      else scalar t

/-- Items up to the closing bracket. -/
def items : Nat → Text → Result (List Json)
  | 0, t => .error (.malformed .valueExpected t)
  | fuel + 1, t =>
    match value fuel t with
    | .error e => .error e
    | .ok (v, rest) =>
      let rest := skipSpace rest
      if rest.head? == some ']' then .ok ([v], rest.drop 1)
      else if rest.head? == some ',' then
        (items fuel (skipSpace (rest.drop 1))).map fun r => (v :: r.1, r.2)
      else .error (.malformed .commaExpected rest)

/-- Members up to the closing brace, put to those read before. -/
def members : Nat → Members → Text → Result Members
  | 0, _, t => .error (.malformed .nameExpected t)
  | fuel + 1, before, t =>
    if t.head? != some '"' then .error (.malformed .nameExpected t)
    else
      match text t with
      | .error e => .error e
      | .ok (key, rest) =>
        let rest := skipSpace rest
        if rest.head? != some ':' then .error (.malformed .colonExpected rest)
        else
          match value fuel (skipSpace (rest.drop 1)) with
          | .error e => .error e
          | .ok (v, rest) =>
            let rest := skipSpace rest
            if rest.head? == some '\x7d' then .ok (Assoc.put key v before, rest.drop 1)
            else if rest.head? == some ',' then
              members fuel (Assoc.put key v before) (skipSpace (rest.drop 1))
            else .error (.malformed .commaExpected rest)

end

/-- The place of a fault in a document. -/
def locate (document : Text) : Mishap → JsonError
  | .integerTooLong digits => .integerTooLong digits
  | .malformed fault rest =>
    let position := document.length - rest.length
    let before := document.take position
    let onLine := before.reverse.takeWhile fun c => c.val ≠ 0x0A
    .malformed fault position (before.countP (fun c => c.val = 0x0A) + 1) (onLine.length + 1)

/-- A whole document: one value and nothing but white space around it. Each opening bracket
costs two calls, so twice the length bounds the depth of calls. -/
def document (t : Text) : Except Mishap Json :=
  match value (2 * t.length + 2) (skipSpace t) with
  | .error e => .error e
  | .ok (v, rest) =>
    let rest := skipSpace rest
    if rest = [] then .ok v else .error (.malformed .extraData rest)

end Reader

def read (t : Text) : Except JsonError Json := (Reader.document t).mapError (Reader.locate t)

/-- The value of a document that may not start with a byte order mark. -/
def readMarkless (t : Text) : Except JsonError Json :=
  if t.head? == some (.ofNat 0xFEFF) then .error (.malformed .byteOrderMark 0 1 1) else read t

end Json
end Signet
