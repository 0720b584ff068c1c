import Mathlib
import Signet.Proofs.Text.CodePoint
import Signet.Text.Utf8

/-!
# UTF-8 read back

The bytes of a code point that is no surrogate are scanned as that one character, whatever
follows, so the bytes of a text are decoded to that text.
-/
namespace Signet
namespace Utf8

theorem toNat_toUInt8 {n : Nat} (h : n < 256) : n.toUInt8.toNat = n := by
  simp [Nat.toUInt8, h]

/-- Only the code point zero is written with a zero byte. -/
theorem encodeCodePoint_eq_cons {c : CodePoint} (hc : 0 < c.val) :
    ∃ b rest, encodeCodePoint c = b :: rest ∧ b ≠ 0 := by
  have hne {n : Nat} (hn : 0 < n) (hn' : n < 256) : n.toUInt8 ≠ 0 := by
    intro hzero
    have hval := toNat_toUInt8 hn'
    rw [hzero] at hval
    exact hn.ne hval
  have hbound := c.val_lt
  unfold encodeCodePoint
  dsimp only
  split_ifs
  · exact ⟨_, _, rfl, hne hc (by omega)⟩
  · exact ⟨_, _, rfl, hne (by omega) (by omega)⟩
  · exact ⟨_, _, rfl, hne (by omega) (by omega)⟩
  · exact ⟨_, _, rfl, hne (by omega) (by omega)⟩

theorem start_of_two {b : UInt8} (h : 0xC2 ≤ b.toNat) (h' : b.toNat < 0xE0) :
    start b = .pending ⟨0, 0x80, 0xBF, b.toNat - 0xC0, [b]⟩ := by
  have h1 : ¬ b.toNat < 0x80 := by omega
  have h2 : ¬ b.toNat < 0xC2 := by omega
  simp only [start, if_neg h1, if_neg h2, if_pos h']

theorem start_of_three {b : UInt8} (h : 0xE0 ≤ b.toNat) (h' : b.toNat < 0xF0) :
    start b = .pending ⟨1, if b.toNat = 0xE0 then 0xA0 else 0x80,
      if b.toNat = 0xED then 0x9F else 0xBF, b.toNat - 0xE0, [b]⟩ := by
  have h1 : ¬ b.toNat < 0x80 := by omega
  have h2 : ¬ b.toNat < 0xC2 := by omega
  have h3 : ¬ b.toNat < 0xE0 := by omega
  simp only [start, if_neg h1, if_neg h2, if_neg h3, if_pos h']

theorem start_of_four {b : UInt8} (h : 0xF0 ≤ b.toNat) (h' : b.toNat < 0xF5) :
    start b = .pending ⟨2, if b.toNat = 0xF0 then 0x90 else 0x80,
      if b.toNat = 0xF4 then 0x8F else 0xBF, b.toNat - 0xF0, [b]⟩ := by
  have h1 : ¬ b.toNat < 0x80 := by omega
  have h2 : ¬ b.toNat < 0xC2 := by omega
  have h3 : ¬ b.toNat < 0xE0 := by omega
  have h4 : ¬ b.toNat < 0xF0 := by omega
  simp only [start, if_neg h1, if_neg h2, if_neg h3, if_neg h4, if_pos h']

theorem scan_of_start_eq_pending {b : UInt8} {p : Pending} (h : start b = .pending p)
    (rest : Bytes) : scan none (b :: rest) = scan (some p) rest := by
  simp only [scan, h]

/-- A byte inside the bounds that is not the last one of its character. -/
theorem scan_more {beyond low high bits : Nat} {bytes rest : Bytes} {b : UInt8}
    (h : low ≤ b.toNat) (h' : b.toNat ≤ high) :
    scan (some ⟨beyond + 1, low, high, bits, bytes⟩) (b :: rest) =
      scan (some ⟨beyond, 0x80, 0xBF, bits * 0x40 + (b.toNat - 0x80), b :: bytes⟩) rest := by
  simp [scan, h, h']

/-- The last byte of a character. -/
theorem scan_last {low high bits : Nat} {bytes rest : Bytes} {b : UInt8}
    (h : low ≤ b.toNat) (h' : b.toNat ≤ high) :
    scan (some ⟨0, low, high, bits, bytes⟩) (b :: rest) =
      .char (.ofNat (bits * 0x40 + (b.toNat - 0x80))) (b :: bytes).reverse :: scan none rest := by
  simp [scan, h, h']

theorem scan_encodeCodePoint {c : CodePoint} (hc : c.isSurrogate = false) (rest : Bytes) :
    scan none (encodeCodePoint c ++ rest) = .char c (encodeCodePoint c) :: scan none rest := by
  obtain ⟨n, hn⟩ := c
  have hscalar : n < 0xD800 ∨ 0xDFFF < n := CodePoint.isSurrogate_eq_false_iff.1 hc
  have hback {m : Nat} (hm : m = n) : CodePoint.ofNat m = ⟨n, hn⟩ := by
    subst hm
    simp [CodePoint.ofNat, hn]
  by_cases h1 : n < 0x80
  · have hb : n.toUInt8.toNat = n := toNat_toUInt8 (by omega)
    simp [encodeCodePoint, h1, scan, start, hb, hback rfl]
  by_cases h2 : n < 0x800
  · have ha : (0xC0 + n / 0x40).toUInt8.toNat = 0xC0 + n / 0x40 := toNat_toUInt8 (by omega)
    have hb : (0x80 + n % 0x40).toUInt8.toNat = 0x80 + n % 0x40 := toNat_toUInt8 (by omega)
    simp only [encodeCodePoint, if_neg h1, if_pos h2, List.cons_append, List.nil_append]
    rw [scan_of_start_eq_pending (start_of_two (by omega) (by omega)),
      scan_last (by omega) (by omega), hback (by omega)]
    rfl
  by_cases h3 : n < 0x10000
  · have ha : (0xE0 + n / 0x1000).toUInt8.toNat = 0xE0 + n / 0x1000 := toNat_toUInt8 (by omega)
    have hb : (0x80 + n / 0x40 % 0x40).toUInt8.toNat = 0x80 + n / 0x40 % 0x40 :=
      toNat_toUInt8 (by omega)
    have hd : (0x80 + n % 0x40).toUInt8.toNat = 0x80 + n % 0x40 := toNat_toUInt8 (by omega)
    simp only [encodeCodePoint, if_neg h1, if_neg h2, if_pos h3, List.cons_append,
      List.nil_append]
    rw [scan_of_start_eq_pending (start_of_three (by omega) (by omega)),
      scan_more (by split <;> omega) (by split <;> omega), scan_last (by omega) (by omega),
      hback (by omega)]
    rfl
  · have ha : (0xF0 + n / 0x40000).toUInt8.toNat = 0xF0 + n / 0x40000 := toNat_toUInt8 (by omega)
    have hb : (0x80 + n / 0x1000 % 0x40).toUInt8.toNat = 0x80 + n / 0x1000 % 0x40 :=
      toNat_toUInt8 (by omega)
    have hd : (0x80 + n / 0x40 % 0x40).toUInt8.toNat = 0x80 + n / 0x40 % 0x40 :=
      toNat_toUInt8 (by omega)
    have he : (0x80 + n % 0x40).toUInt8.toNat = 0x80 + n % 0x40 := toNat_toUInt8 (by omega)
    simp only [encodeCodePoint, if_neg h1, if_neg h2, if_neg h3, List.cons_append,
      List.nil_append]
    rw [scan_of_start_eq_pending (start_of_four (by omega) (by omega)),
      scan_more (by split <;> omega) (by split <;> omega), scan_more (by omega) (by omega),
      scan_last (by omega) (by omega), hback (by omega)]
    rfl

/-- The items of the bytes of a text are its characters. -/
theorem items_encode {t : Text} (h : ∀ c ∈ t, c.isSurrogate = false) :
    items (t.flatMap encodeCodePoint) = t.map fun c => .char c (encodeCodePoint c) := by
  induction t with
  | nil => rfl
  | cons c t ih =>
    have hrest := ih fun d hd => h d (by simp [hd])
    rw [items] at hrest
    rw [items, List.flatMap_cons, scan_encodeCodePoint (h c (by simp)), hrest, List.map_cons]

theorem joinSurrogates_chars (t : Text) :
    joinSurrogates (t.map fun c => .char c (encodeCodePoint c)) =
      t.map fun c => .char c (encodeCodePoint c) := by
  induction t with
  | nil => simp [joinSurrogates]
  | cons c t ih => simp [joinSurrogates, ih]

theorem strict_chars (position : Nat) (t : Text) :
    strict position (t.map fun c => .char c (encodeCodePoint c)) = .ok t := by
  induction t generalizing position with
  | nil => rfl
  | cons c t ih => simp [strict, ih, Except.map]

/-- Texts with a UTF-8 form have no surrogates, and the form is that of their characters. -/
theorem encode_eq_ok_iff {t : Text} {bytes : Bytes} :
    encode t = .ok bytes ↔
      (∀ c ∈ t, c.isSurrogate = false) ∧ bytes = t.flatMap encodeCodePoint := by
  constructor
  · intro h
    rw [encode] at h
    split at h
    · cases h
    · rename_i hnone
      cases h
      exact ⟨firstSurrogates?_eq_none_iff.1 hnone, rfl⟩
  · rintro ⟨h, rfl⟩
    exact encode_eq_ok h

/-- The UTF-8 form of a text is decoded to the text. -/
theorem decode_of_encode {t : Text} {bytes : Bytes} (h : encode t = .ok bytes) :
    decode bytes = .ok t := by
  obtain ⟨hclean, rfl⟩ := encode_eq_ok_iff.1 h
  rw [decode, items_encode hclean, strict_chars]

end Utf8
end Signet
