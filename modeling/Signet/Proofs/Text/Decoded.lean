import Mathlib
import Signet.Proofs.Text.Utf8

/-!
# What decoded bytes spell

The bounds on the bytes of a character let no character be spelled in two ways. So bytes that are
decoded strictly are the UTF-8 form of what is read, and lenient decoding, which reads the same
there and a replacement character for each malformed stretch, never gives a surrogate.

## Main definitions

* `Utf8.Spells beyond low high bits before` — however a character that has begun goes on inside
  its bounds, its bytes are the UTF-8 form of one code point.
-/
namespace Signet
namespace Utf8

/-- The bytes are the form of a code point that is no surrogate. -/
def IsForm (c : CodePoint) (bytes : Bytes) : Prop :=
  c.isSurrogate = false ∧ bytes = encodeCodePoint c

/-- Whichever bytes inside the bounds follow the bytes before, in reverse order, they spell a code
point together. -/
def Spells : Nat → Nat → Nat → Nat → Bytes → Prop
  | 0, low, high, bits, before => ∀ b : UInt8, low ≤ b.toNat → b.toNat ≤ high →
    IsForm (.ofNat (bits * 0x40 + (b.toNat - 0x80))) (b :: before).reverse
  | beyond + 1, low, high, bits, before => ∀ b : UInt8, low ≤ b.toNat → b.toNat ≤ high →
    Spells beyond 0x80 0xBF (bits * 0x40 + (b.toNat - 0x80)) (b :: before)

theorem toUInt8_eq {n : Nat} {b : UInt8} (h : n = b.toNat) : n.toUInt8 = b := by
  subst h
  exact UInt8.toNat_inj.1 (toNat_toUInt8 b.toNat_lt)

theorem isForm_one {a : UInt8} (ha : a.toNat < 0x80) : IsForm (.ofNat a.toNat) [a] := by
  have hval : (CodePoint.ofNat a.toNat).val = a.toNat := CodePoint.val_ofNat (by omega)
  constructor
  · rw [CodePoint.isSurrogate_eq_false_iff, hval]
    omega
  · rw [encodeCodePoint, hval, if_pos ha, toUInt8_eq rfl]

theorem isForm_two {n : Nat} {a b : UInt8} (hn : 0x80 ≤ n) (hn' : n < 0x800)
    (ha : a.toNat = 0xC0 + n / 0x40) (hb : b.toNat = 0x80 + n % 0x40) :
    IsForm (.ofNat n) [a, b] := by
  have hval : (CodePoint.ofNat n).val = n := CodePoint.val_ofNat (by omega)
  constructor
  · rw [CodePoint.isSurrogate_eq_false_iff, hval]
    omega
  · rw [encodeCodePoint, hval, if_neg (by omega), if_pos hn', toUInt8_eq ha.symm,
      toUInt8_eq hb.symm]

theorem isForm_three {n : Nat} {a b c : UInt8} (hn : 0x800 ≤ n) (hn' : n < 0x10000)
    (hsurrogate : n < 0xD800 ∨ 0xDFFF < n) (ha : a.toNat = 0xE0 + n / 0x1000)
    (hb : b.toNat = 0x80 + n / 0x40 % 0x40) (hc : c.toNat = 0x80 + n % 0x40) :
    IsForm (.ofNat n) [a, b, c] := by
  have hval : (CodePoint.ofNat n).val = n := CodePoint.val_ofNat (by omega)
  constructor
  · rw [CodePoint.isSurrogate_eq_false_iff, hval]
    omega
  · rw [encodeCodePoint, hval, if_neg (by omega), if_neg (by omega), if_pos hn',
      toUInt8_eq ha.symm, toUInt8_eq hb.symm, toUInt8_eq hc.symm]

theorem isForm_four {n : Nat} {a b c d : UInt8} (hn : 0x10000 ≤ n) (hn' : n < 0x110000)
    (ha : a.toNat = 0xF0 + n / 0x40000) (hb : b.toNat = 0x80 + n / 0x1000 % 0x40)
    (hc : c.toNat = 0x80 + n / 0x40 % 0x40) (hd : d.toNat = 0x80 + n % 0x40) :
    IsForm (.ofNat n) [a, b, c, d] := by
  have hval : (CodePoint.ofNat n).val = n := CodePoint.val_ofNat hn'
  constructor
  · rw [CodePoint.isSurrogate_eq_false_iff, hval]
    omega
  · rw [encodeCodePoint, hval, if_neg (by omega), if_neg (by omega), if_neg (by omega),
      toUInt8_eq ha.symm, toUInt8_eq hb.symm, toUInt8_eq hc.symm, toUInt8_eq hd.symm]

/-- A first byte of two bounds the second one so that both spell a code point. -/
theorem spells_two {a : UInt8} (ha : 0xC2 ≤ a.toNat) (ha' : a.toNat < 0xE0) :
    Spells 0 0x80 0xBF (a.toNat - 0xC0) [a] := by
  intro b hb hb'
  exact isForm_two (by omega) (by omega) (by omega) (by omega)

/-- Of three bytes, the bounds on the second one keep out overlong forms and surrogates. -/
theorem spells_three {a : UInt8} (ha : 0xE0 ≤ a.toNat) (ha' : a.toNat < 0xF0) :
    Spells 1 (if a.toNat = 0xE0 then 0xA0 else 0x80) (if a.toNat = 0xED then 0x9F else 0xBF)
      (a.toNat - 0xE0) [a] := by
  intro b hb hb' c hc hc'
  split at hb <;> split at hb' <;>
    exact isForm_three (by omega) (by omega) (by omega) (by omega) (by omega) (by omega)

/-- Of four bytes, the bounds on the second one keep out overlong forms and numbers beyond the last
code point. -/
theorem spells_four {a : UInt8} (ha : 0xF0 ≤ a.toNat) (ha' : a.toNat < 0xF5) :
    Spells 2 (if a.toNat = 0xF0 then 0x90 else 0x80) (if a.toNat = 0xF4 then 0x8F else 0xBF)
      (a.toNat - 0xF0) [a] := by
  intro b hb hb' c hc hc' d hd hd'
  split at hb <;> split at hb' <;>
    exact isForm_four (by omega) (by omega) (by omega) (by omega) (by omega) (by omega)

/-- What a first byte begins spells code points only. -/
def Start.Spells (b : UInt8) : Start → Prop
  | .whole c => IsForm c [b]
  | .pending p => Utf8.Spells p.beyond p.low p.high p.bits p.bytes ∧ p.bytes = [b]
  | .fault => True

theorem spells_start (b : UInt8) : (start b).Spells b := by
  by_cases h1 : b.toNat < 0x80
  · rw [start, if_pos h1]
    exact isForm_one h1
  by_cases h2 : b.toNat < 0xC2
  · rw [start, if_neg h1, if_pos h2]
    trivial
  by_cases h3 : b.toNat < 0xE0
  · rw [start_of_two (by omega) h3]
    exact ⟨spells_two (by omega) h3, rfl⟩
  by_cases h4 : b.toNat < 0xF0
  · rw [start_of_three (by omega) h4]
    exact ⟨spells_three (by omega) h4, rfl⟩
  by_cases h5 : b.toNat < 0xF5
  · rw [start_of_four (by omega) h5]
    exact ⟨spells_four (by omega) h5, rfl⟩
  · rw [start, if_neg h1, if_neg h2, if_neg h3, if_neg h4, if_neg h5]
    trivial

/-- The bytes of a character that has begun, in their order. -/
def begunBytes : Option Pending → Bytes
  | none => []
  | some p => p.bytes.reverse

/-- A character that has begun spells code points only. -/
def Begun : Option Pending → Prop
  | none => True
  | some p => Spells p.beyond p.low p.high p.bits p.bytes

/-- A byte outside the bounds ends the stretch, and starts afresh. -/
theorem scan_refused {p : Pending} {b : UInt8} (h : ¬ (p.low ≤ b.toNat ∧ b.toNat ≤ p.high))
    (rest : Bytes) :
    scan (some p) (b :: rest) = .malformed .continuation p.bytes.reverse :: scan none (b :: rest) := by
  simp only [scan, if_neg h]

/-- The items of bytes are all of the bytes in their order, and each character of them is spelled
by its UTF-8 form. -/
structure Itemized (items : List Utf8Item) (bytes : Bytes) : Prop where
  bytes_eq : items.flatMap Utf8Item.bytes = bytes
  isForm : ∀ c form, .char c form ∈ items → IsForm c form

theorem Itemized.char {items : List Utf8Item} {bytes form : Bytes} {c : CodePoint}
    (h : Itemized items bytes) (hc : IsForm c form) :
    Itemized (.char c form :: items) (form ++ bytes) where
  bytes_eq := by rw [List.flatMap_cons, h.bytes_eq, Utf8Item.bytes]
  isForm := by
    intro d form' hd
    rcases List.mem_cons.1 hd with heq | hd
    · cases heq
      exact hc
    · exact h.isForm d form' hd

theorem Itemized.malformed {items : List Utf8Item} {bytes : Bytes} (h : Itemized items bytes)
    (fault : DecodeFault) (stretch : Bytes) :
    Itemized (.malformed fault stretch :: items) (stretch ++ bytes) where
  bytes_eq := by rw [List.flatMap_cons, h.bytes_eq, Utf8Item.bytes]
  isForm := by
    intro c form hc
    rcases List.mem_cons.1 hc with heq | hc
    · cases heq
    · exact h.isForm c form hc

theorem Itemized.nil : Itemized [] [] := ⟨rfl, fun _ _ h => by cases h⟩

theorem begun_none : Begun none := trivial

theorem itemized_scan {state : Option Pending} (h : Begun state) (rest : Bytes) :
    Itemized (scan state rest) (begunBytes state ++ rest) := by
  induction rest generalizing state with
  | nil =>
    cases state with
    | none => exact .nil
    | some p => exact Itemized.nil.malformed .unfinished p.bytes.reverse
  | cons b rest ih =>
    have hafresh : Itemized (scan none (b :: rest)) (b :: rest) := by
      have hstart := spells_start b
      rw [scan]
      cases hb : start b with
      | whole c =>
        rw [hb] at hstart
        exact (ih begun_none).char hstart
      | pending p =>
        rw [hb] at hstart
        have hbegun : Begun (some p) := hstart.1
        have hrest := ih hbegun
        rwa [begunBytes, hstart.2] at hrest
      | fault => exact (ih begun_none).malformed .start [b]
    cases state with
    | none => exact hafresh
    | some p =>
      obtain ⟨beyond, low, high, bits, before⟩ := p
      by_cases hb : low ≤ b.toNat ∧ b.toNat ≤ high
      · cases beyond with
        | zero =>
          rw [scan_last hb.1 hb.2]
          have hrest := (ih begun_none).char (h b hb.1 hb.2)
          simpa [begunBytes] using hrest
        | succ beyond =>
          rw [scan_more hb.1 hb.2]
          have hbegun : Begun (some ⟨beyond, 0x80, 0xBF, bits * 0x40 + (b.toNat - 0x80),
              b :: before⟩) := h b hb.1 hb.2
          have hrest := ih hbegun
          simpa [begunBytes] using hrest
      · rw [scan_refused hb]
        exact hafresh.malformed .continuation before.reverse

theorem itemized_items (bytes : Bytes) : Itemized (items bytes) bytes :=
  itemized_scan begun_none bytes

/-- Items without a malformed stretch are the characters that are read. -/
theorem items_of_strict {position : Nat} {items : List Utf8Item} {t : Text}
    (h : strict position items = .ok t) :
    (∀ c ∈ items, ∃ d form, c = .char d form) ∧ items.map Utf8Item.lenient = t := by
  induction items generalizing position t with
  | nil =>
    cases h
    exact ⟨List.forall_mem_nil _, rfl⟩
  | cons item items ih =>
    cases item with
    | malformed fault stretch => cases h
    | char c form =>
      rw [strict] at h
      cases hrest : strict (position + form.length) items with
      | error e =>
        rw [hrest] at h
        cases h
      | ok rest =>
        rw [hrest] at h
        cases h
        obtain ⟨hchars, hmap⟩ := ih hrest
        exact ⟨List.forall_mem_cons.2 ⟨⟨c, form, rfl⟩, hchars⟩, by rw [List.map_cons, hmap]; rfl⟩

/-- Where bytes can be decoded strictly, lenient decoding reads the same. -/
theorem decodeLenient_of_decode {bytes : Bytes} {t : Text} (h : decode bytes = .ok t) :
    decodeLenient bytes = t :=
  (items_of_strict h).2

/-- Lenient decoding gives no surrogate. -/
theorem isSurrogate_of_mem_decodeLenient {bytes : Bytes} {c : CodePoint}
    (hc : c ∈ decodeLenient bytes) : c.isSurrogate = false := by
  obtain ⟨item, hitem, rfl⟩ := List.mem_map.1 hc
  cases item with
  | char d form => exact ((itemized_items bytes).isForm d form hitem).1
  | malformed fault stretch => exact (by decide : CodePoint.replacement.isSurrogate = false)

/-- Bytes are decoded strictly to a text exactly if they are its UTF-8 form. -/
theorem decode_eq_ok_iff {bytes : Bytes} {t : Text} :
    decode bytes = .ok t ↔ encode t = .ok bytes := by
  constructor
  · intro h
    obtain ⟨hchars, hmap⟩ := items_of_strict h
    have hitems := itemized_items bytes
    refine encode_eq_ok_iff.2 ⟨fun c hc => ?_, ?_⟩
    · rw [← decodeLenient_of_decode h] at hc
      exact isSurrogate_of_mem_decodeLenient hc
    · rw [← hitems.bytes_eq, ← hmap, List.flatMap_map]
      refine List.flatMap_congr fun item hitem => ?_
      obtain ⟨c, form, rfl⟩ := hchars item hitem
      exact (hitems.isForm c form hitem).2
  · exact decode_of_encode

/-- The bytes are the UTF-8 form of a text. -/
def Valid (bytes : Bytes) : Prop := ∃ t, encode t = .ok bytes

end Utf8
end Signet
