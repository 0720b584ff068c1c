/-!
# Code points and texts

A text is a list of code points. Surrogates are code points too: documents can spell
a lone surrogate with an escape, and such a text is carried unchanged until
something has to write it as bytes.
-/
namespace Signet

/-- A Unicode code point, surrogates included. -/
structure CodePoint where
  val : Nat
  val_lt : val < 0x110000
deriving DecidableEq, Repr

namespace CodePoint

theorem ext {a b : CodePoint} (h : a.val = b.val) : a = b := by
  cases a; cases b; simp_all

theorem toNat_char_lt (c : Char) : c.toNat < 0x110000 := by
  have h := c.valid
  simp only [UInt32.isValidChar, Nat.isValidChar] at h
  show c.val.toNat < _
  omega

/-- Every character is a code point. -/
def ofChar (c : Char) : CodePoint := ⟨c.toNat, toNat_char_lt c⟩

instance : Coe Char CodePoint := ⟨ofChar⟩

@[simp] theorem val_ofChar (c : Char) : (ofChar c).val = c.toNat := rfl

instance : Inhabited CodePoint := ⟨⟨0, by decide⟩⟩

/-- The code point that stands for what could not be decoded. -/
def replacement : CodePoint := ⟨0xFFFD, by decide⟩

/-- The code point of a number, the replacement character for a number out of range. -/
def ofNat (n : Nat) : CodePoint :=
  if h : n < 0x110000 then ⟨n, h⟩ else replacement

@[simp] theorem val_ofNat {n : Nat} (h : n < 0x110000) : (ofNat n).val = n := by
  simp [ofNat, h]

@[simp] theorem ofNat_val (c : CodePoint) : ofNat c.val = c := by
  simp [ofNat, c.val_lt]

/-- Surrogates have no UTF-8 form. -/
def isSurrogate (c : CodePoint) : Bool := 0xD800 ≤ c.val && c.val ≤ 0xDFFF

/-- Leading surrogates open a pair. -/
def isLeading (c : CodePoint) : Bool := 0xD800 ≤ c.val && c.val ≤ 0xDBFF

/-- Trailing surrogates close a pair. -/
def isTrailing (c : CodePoint) : Bool := 0xDC00 ≤ c.val && c.val ≤ 0xDFFF

/-- The code point that a leading and a trailing surrogate spell together. -/
def ofPair (leading trailing : CodePoint) : CodePoint :=
  ofNat (0x10000 + (leading.val - 0xD800) * 0x400 + (trailing.val - 0xDC00))

def isAsciiDigit (c : CodePoint) : Bool := 0x30 ≤ c.val && c.val ≤ 0x39

def isAsciiLower (c : CodePoint) : Bool := 0x61 ≤ c.val && c.val ≤ 0x7A

def isAsciiUpper (c : CodePoint) : Bool := 0x41 ≤ c.val && c.val ≤ 0x5A

def isAsciiLetter (c : CodePoint) : Bool := c.isAsciiLower || c.isAsciiUpper

/-- The value of a hexadecimal digit of either case. -/
def hexValue? (c : CodePoint) : Option Nat :=
  if c.isAsciiDigit then some (c.val - 0x30)
  else if 0x61 ≤ c.val && c.val ≤ 0x66 then some (c.val - 0x61 + 10)
  else if 0x41 ≤ c.val && c.val ≤ 0x46 then some (c.val - 0x41 + 10)
  else none

/-- A hexadecimal digit of either case. -/
def isHexDigit (c : CodePoint) : Bool := c.hexValue?.isSome

end CodePoint

/-- A text is a sequence of code points. -/
abbrev Text := List CodePoint

instance : LawfulBEq Text := inferInstance

/-- Bytes as they travel and as they lie in files. -/
abbrev Bytes := List UInt8

namespace Text

def ofString (s : String) : Text := s.toList.map CodePoint.ofChar

instance : Coe String Text := ⟨ofString⟩

/-- The string of a text; surrogates become the replacement character. -/
def toString (t : Text) : String :=
  String.ofList (t.map fun c => if c.isSurrogate then '\uFFFD' else Char.ofNat c.val)

/-- The order of code points, position by position; a beginning comes first. -/
def le : Text → Text → Bool
  | [], _ => true
  | _ :: _, [] => false
  | a :: s, b :: t => if a.val < b.val then true else if b.val < a.val then false else le s t

def startsWith (t start : Text) : Bool := start.isPrefixOf t

def includes (t part : Text) : Bool :=
  match t with
  | [] => part.isEmpty
  | c :: r => part.isPrefixOf (c :: r) || includes r part

/-- What stands before and after the first occurrence of a code point, if there is one. -/
def cut? (t : Text) (mark : CodePoint) : Option (Text × Text) :=
  match t with
  | [] => none
  | c :: r => if c = mark then some ([], r) else (cut? r mark).map fun p => (c :: p.1, p.2)

/-- What stands before and after the last occurrence of a code point, if there is one. -/
def cutLast? (t : Text) (mark : CodePoint) : Option (Text × Text) :=
  match t with
  | [] => none
  | c :: r =>
    match cutLast? r mark with
    | some p => some (c :: p.1, p.2)
    | none => if c = mark then some ([], r) else none

/-- The pieces between the occurrences of a code point; there is always at least one. -/
def split (t : Text) (mark : CodePoint) : List Text :=
  match t with
  | [] => [[]]
  | c :: r =>
    if c = mark then [] :: split r mark
    else
      match split r mark with
      | [] => [[c]]
      | piece :: pieces => (c :: piece) :: pieces

/-- The texts one after the other with a separator in between. -/
def join (separator : Text) : List Text → Text
  | [] => []
  | [t] => t
  | t :: ts => t ++ separator ++ join separator ts

/-- The text without what a test accepts at its end. -/
def dropEnd (p : CodePoint → Bool) (t : Text) : Text := (t.reverse.dropWhile p).reverse

/-- The text without what a test accepts at either end. -/
def trim (p : CodePoint → Bool) (t : Text) : Text := dropEnd p (t.dropWhile p)

end Text

end Signet
