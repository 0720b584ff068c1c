import Signet.Text.Encoding

/-!
# UTF-8

Bytes are read as items: characters, and malformed stretches with the reason why each
is malformed. A stretch ends where the bytes stop being the beginning of a character, so
the item after it starts afresh. Strict decoding refuses at the first malformed stretch;
lenient decoding puts the replacement character in the place of each of them.
-/
namespace Signet

/-- A stretch of bytes: a character, or bytes that spell none. -/
inductive Utf8Item where
  | char (c : CodePoint) (bytes : Bytes)
  | malformed (fault : DecodeFault) (bytes : Bytes)
deriving DecidableEq, Repr

namespace Utf8

/-- A character that has begun: how many bytes it still needs beyond the next one, between
which bounds the next one lies, its bits so far, and its bytes so far in reverse order. -/
structure Pending where
  beyond : Nat
  low : Nat
  high : Nat
  bits : Nat
  bytes : Bytes
deriving DecidableEq, Repr

/-- What a first byte begins. -/
inductive Start where
  | whole (c : CodePoint)
  | pending (p : Pending)
  | fault
deriving DecidableEq, Repr

/-- Bounds on the second byte keep out overlong forms, surrogates and numbers beyond the
last code point. -/
def start (b : UInt8) : Start :=
  let n := b.toNat
  if n < 0x80 then .whole (.ofNat n)
  else if n < 0xC2 then .fault
  else if n < 0xE0 then .pending ⟨0, 0x80, 0xBF, n - 0xC0, [b]⟩
  else if n < 0xF0 then
    .pending ⟨1, if n = 0xE0 then 0xA0 else 0x80, if n = 0xED then 0x9F else 0xBF, n - 0xE0, [b]⟩
  else if n < 0xF5 then
    .pending ⟨2, if n = 0xF0 then 0x90 else 0x80, if n = 0xF4 then 0x8F else 0xBF, n - 0xF0, [b]⟩
  else .fault

/-- The items of bytes, after a character that has begun. -/
def scan : Option Pending → Bytes → List Utf8Item
  | none, [] => []
  | some p, [] => [.malformed .unfinished p.bytes.reverse]
  | none, b :: rest =>
    match start b with
    | .whole c => .char c [b] :: scan none rest
    | .pending p => scan (some p) rest
    | .fault => .malformed .start [b] :: scan none rest
  | some p, b :: rest =>
    if p.low ≤ b.toNat ∧ b.toNat ≤ p.high then
      let bits := p.bits * 0x40 + (b.toNat - 0x80)
      match p.beyond with
      | 0 => .char (.ofNat bits) (b :: p.bytes).reverse :: scan none rest
      | beyond + 1 => scan (some ⟨beyond, 0x80, 0xBF, bits, b :: p.bytes⟩) rest
    else
      .malformed .continuation p.bytes.reverse ::
        match start b with
        | .whole c => .char c [b] :: scan none rest
        | .pending p => scan (some p) rest
        | .fault => .malformed .start [b] :: scan none rest

/-- The items of bytes. -/
def items (bytes : Bytes) : List Utf8Item := scan none bytes

end Utf8

def Utf8Item.bytes : Utf8Item → Bytes
  | .char _ bytes => bytes
  | .malformed _ bytes => bytes

/-- What lenient decoding reads in an item. -/
def Utf8Item.lenient : Utf8Item → CodePoint
  | .char c _ => c
  | .malformed _ _ => .replacement

namespace Utf8

/-- The characters of items that start at a position, or the first malformed stretch. -/
def strict (position : Nat) : List Utf8Item → Except DecodeError Text
  | [] => .ok []
  | .char c bytes :: rest => (strict (position + bytes.length) rest).map (c :: ·)
  | .malformed fault bytes :: _ => .error ⟨.utf8, bytes, position, fault⟩

/-- The text that bytes spell. -/
def decode (bytes : Bytes) : Except DecodeError Text := strict 0 (items bytes)

/-- The text that bytes spell, each malformed stretch replaced by one character. -/
def decodeLenient (bytes : Bytes) : Text := (items bytes).map Utf8Item.lenient

/-- A surrogate written as three bytes is read by strict items as three stretches of one
byte each; here they become that surrogate. -/
def joinSurrogates : List Utf8Item → List Utf8Item
  | .malformed .continuation [a] :: .malformed .start [b] :: .malformed .start [c] :: rest =>
    if a = 0xED ∧ 0xA0 ≤ b ∧ b ≤ 0xBF ∧ 0x80 ≤ c ∧ c ≤ 0xBF then
      .char (.ofNat (0xD000 + (b.toNat - 0x80) * 0x40 + (c.toNat - 0x80))) [a, b, c] ::
        joinSurrogates rest
    else
      .malformed .continuation [a] ::
        joinSurrogates (.malformed .start [b] :: .malformed .start [c] :: rest)
  | item :: rest => item :: joinSurrogates rest
  | [] => []
termination_by items => items.length

/-- The bytes of one code point, the surrogates written like their neighbours. -/
def encodeCodePoint (c : CodePoint) : Bytes :=
  let n := c.val
  if n < 0x80 then [n.toUInt8]
  else if n < 0x800 then [(0xC0 + n / 0x40).toUInt8, (0x80 + n % 0x40).toUInt8]
  else if n < 0x10000 then
    [(0xE0 + n / 0x1000).toUInt8, (0x80 + n / 0x40 % 0x40).toUInt8, (0x80 + n % 0x40).toUInt8]
  else
    [(0xF0 + n / 0x40000).toUInt8, (0x80 + n / 0x1000 % 0x40).toUInt8,
     (0x80 + n / 0x40 % 0x40).toUInt8, (0x80 + n % 0x40).toUInt8]

/-- The first run of surrogates of a text that starts at a position. -/
def firstSurrogates? (position : Nat) : Text → Option EncodeError
  | [] => none
  | c :: rest =>
    if c.isSurrogate then
      some ⟨position, 1 + (rest.takeWhile CodePoint.isSurrogate).length, c⟩
    else firstSurrogates? (position + 1) rest

/-- The bytes of a text; a text with surrogates has none. -/
def encode (t : Text) : Except EncodeError Bytes :=
  match firstSurrogates? 0 t with
  | some e => .error e
  | none => .ok (t.flatMap encodeCodePoint)

theorem firstSurrogates?_eq_none_iff {position : Nat} {t : Text} :
    firstSurrogates? position t = none ↔ ∀ c ∈ t, c.isSurrogate = false := by
  induction t generalizing position with
  | nil => simp [firstSurrogates?]
  | cons c rest ih =>
    by_cases h : c.isSurrogate = true
    · simp [firstSurrogates?, h]
    · simp [firstSurrogates?, h, ih]

theorem encode_eq_ok {t : Text} (h : ∀ c ∈ t, c.isSurrogate = false) :
    encode t = .ok (t.flatMap encodeCodePoint) := by
  simp [encode, firstSurrogates?_eq_none_iff.2 h]

end Utf8

end Signet
