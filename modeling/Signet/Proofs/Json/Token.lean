import Mathlib
import Signet.Json.Reader
import Signet.Json.Writer
import Signet.Proofs.Text.Decimal

/-!
# Written texts and integers read back

A written text is read to its closing quotation mark, and a written integer to the first
character that cannot belong to it.
-/
namespace Signet

namespace Hex

theorem hexValue?_digit {n : Nat} (h : n < 16) : (digit n).hexValue? = some n := by
  have hall : ∀ n < 16, (digit n).hexValue? = some n := by decide
  exact hall n h

end Hex

namespace Json
namespace Reader

/-- Four written hexadecimal digits spell their number. -/
theorem hex4?_fixed {n : Nat} (h : n < 0x10000) {a b c d : CodePoint}
    (hfixed : Hex.fixed 4 n = [a, b, c, d]) : hex4? a b c d = some n := by
  simp only [Hex.fixed, List.nil_append, List.cons_append, List.cons.injEq, and_true] at hfixed
  obtain ⟨rfl, rfl, rfl, rfl⟩ := hfixed
  have hlt (m : Nat) : m % 16 < 16 := Nat.mod_lt m (by decide)
  simp only [hex4?, Hex.hexValue?_digit (hlt _), Option.some.injEq]
  omega

/-- A control character is spelt by its number, which opens no pair. -/
theorem unicodeEscape_fixed {c : CodePoint} (hc : c.val < 0x20) {more : Text} (hmore : more ≠ []) :
    unicodeEscape (('u' : CodePoint) :: (Hex.fixed 4 c.val ++ more)) = .ok (c, more) := by
  obtain ⟨x, y, z, w, hfixed⟩ : ∃ x y z w, Hex.fixed 4 c.val = [x, y, z, w] := by
    simp [Hex.fixed]
  have hhex := hex4?_fixed (by omega) hfixed
  have hleading : c.isLeading = false := by
    rw [CodePoint.isLeading, Bool.and_eq_false_iff, decide_eq_false_iff_not]
    exact .inl (by omega)
  simp only [unicodeEscape, hfixed, List.drop_succ_cons, List.drop_zero, List.cons_append,
    List.nil_append, hhex, List.isEmpty_eq_false_iff.2 hmore, Bool.false_eq_true, if_false,
    CodePoint.ofNat_val, hleading]

/-- One written character is read as that character. -/
theorem character_writeCharacter (opening : Text) (c : CodePoint) {more : Text}
    (hmore : more ≠ []) : character opening (writeCharacter c ++ more) = .ok (some c, more) := by
  by_cases hquote : c = CodePoint.ofChar '"'
  · subst hquote; rfl
  by_cases hslash : c = CodePoint.ofChar '\\'
  · subst hslash; rfl
  by_cases hcontrol : c.val < 0x20
  · by_cases hn : c = CodePoint.ofChar '\n'
    · subst hn; rfl
    by_cases hr : c = CodePoint.ofChar '\r'
    · subst hr; rfl
    by_cases ht : c = CodePoint.ofChar '\t'
    · subst ht; rfl
    by_cases hf : c.val = 0x0C
    · obtain rfl : c = CodePoint.ofChar '\x0c' := CodePoint.eq_ofChar_iff.2 hf
      rfl
    by_cases hb : c.val = 0x08
    · obtain rfl : c = CodePoint.ofChar '\x08' := CodePoint.eq_ofChar_iff.2 hb
      rfl
    · have hwritten : writeCharacter c =
          ('\\' : CodePoint) :: ('u' : CodePoint) :: Hex.fixed 4 c.val := by
        simp only [writeCharacter, if_neg hquote, if_neg hslash, if_pos hcontrol, if_neg hn,
          if_neg hr, if_neg ht, if_neg hf, if_neg hb]
        rfl
      have hescape := unicodeEscape_fixed hcontrol hmore
      have hmark : (CodePoint.ofChar '\\' : CodePoint) ≠ CodePoint.ofChar '"' := by decide
      have hprintable : ¬ (CodePoint.ofChar '\\').val < 0x20 := by decide
      simp only [hwritten, List.cons_append, character, if_neg hmark, if_neg hprintable, if_true,
        hescape, Except.map]
  · have hwritten : writeCharacter c = [c] := by
      simp only [writeCharacter, if_neg hquote, if_neg hslash, if_neg hcontrol]
    simp only [hwritten, List.singleton_append, character, if_neg hquote, if_neg hcontrol,
      if_neg hslash]

/-- Written characters are read up to the quotation mark behind them. -/
theorem characters_write (opening t rest : Text) {fuel : Nat} (hfuel : t.length < fuel) :
    characters opening fuel (t.flatMap writeCharacter ++ ('"' : CodePoint) :: rest) =
      .ok (t, rest) := by
  induction t generalizing fuel with
  | nil =>
    obtain ⟨fuel, rfl⟩ : ∃ n, fuel = n + 1 := ⟨fuel - 1, by simp at hfuel; omega⟩
    rfl
  | cons c t ih =>
    obtain ⟨fuel, rfl⟩ : ∃ n, fuel = n + 1 := ⟨fuel - 1, by omega⟩
    have hrest : t.flatMap writeCharacter ++ CodePoint.ofChar '"' :: rest ≠ [] := by simp
    rw [List.flatMap_cons, List.append_assoc, characters, character_writeCharacter _ _ hrest]
    have hread := @ih fuel (by simpa using hfuel)
    simp only [hread]
    rfl

theorem length_le_flatMap_writeCharacter (t : Text) :
    t.length ≤ (t.flatMap writeCharacter).length := by
  induction t with
  | nil => simp
  | cons c t ih =>
    have hc : 1 ≤ (writeCharacter c).length := by
      simp only [writeCharacter]
      repeat' split
      all_goals simp [Text.ofString]
    simp only [List.length_cons, List.flatMap_cons, List.length_append]
    omega

theorem writeText_eq (t : Text) :
    writeText t = ('"' : CodePoint) :: (t.flatMap writeCharacter ++ [('"' : CodePoint)]) := rfl

/-- A written text is read back, whatever follows it. -/
theorem text_write (t rest : Text) : text (writeText t ++ rest) = .ok (t, rest) := by
  have hlength := length_le_flatMap_writeCharacter t
  have hbody : (writeText t ++ rest).drop 1 =
      t.flatMap writeCharacter ++ ('"' : CodePoint) :: rest := by
    simp [writeText_eq]
  have hfuel : t.length < (writeText t ++ rest).length := by
    rw [writeText_eq, List.cons_append, List.length_cons, List.length_append, List.length_append]
    omega
  rw [text, hbody]
  exact characters_write _ _ _ hfuel

/-! ## Integers -/

/-- What may stand behind a value: nothing, or a character that continues no number. -/
def Closes (rest : Text) : Prop :=
  rest = [] ∨ ∃ c more, rest = c :: more ∧ (c = ',' ∨ c = ']' ∨ c = '\x7d')

theorem closes_nil : Closes [] := .inl rfl

theorem closes_comma (rest : Text) : Closes ((',' : CodePoint) :: rest) :=
  .inr ⟨_, _, rfl, .inl rfl⟩

theorem closes_bracket (rest : Text) : Closes ((']' : CodePoint) :: rest) :=
  .inr ⟨_, _, rfl, .inr (.inl rfl)⟩

theorem closes_brace (rest : Text) : Closes (('\x7d' : CodePoint) :: rest) :=
  .inr ⟨_, _, rfl, .inr (.inr rfl)⟩

/-- Nothing that closes a value is taken for a part of a number. -/
theorem Closes.no_number {rest : Text} (h : Closes rest) :
    rest.takeWhile CodePoint.isAsciiDigit = [] ∧ rest.dropWhile CodePoint.isAsciiDigit = rest ∧
      fraction rest = ([], rest) ∧ exponent rest = (none, rest) := by
  rcases h with rfl | ⟨c, more, rfl, rfl | rfl | rfl⟩ <;> exact ⟨rfl, rfl, rfl, rfl⟩

theorem takeWhile_digits {digits rest : Text} (h : ∀ c ∈ digits, c.isAsciiDigit = true)
    (hrest : Closes rest) : (digits ++ rest).takeWhile CodePoint.isAsciiDigit = digits := by
  rw [List.takeWhile_append_of_pos h, hrest.no_number.1, List.append_nil]

theorem dropWhile_digits {digits rest : Text} (h : ∀ c ∈ digits, c.isAsciiDigit = true)
    (hrest : Closes rest) : (digits ++ rest).dropWhile CodePoint.isAsciiDigit = rest := by
  rw [List.dropWhile_append_of_pos h, hrest.no_number.2.1]

/-- The digits of a natural number are read as a whole. -/
theorem whole?_ofNat (n : Nat) {rest : Text} (hrest : Closes rest) :
    whole? (Decimal.ofNat n ++ rest) = some (Decimal.ofNat n, rest) := by
  rcases Nat.eq_zero_or_pos n with rfl | hn
  · rw [Decimal.ofNat_zero]; rfl
  · obtain ⟨c, digits, hcons⟩ := List.exists_cons_of_ne_nil (Decimal.ofNat_ne_nil n)
    have hhead := Decimal.head?_ofNat_ne_zero hn
    have hall : ∀ d ∈ c :: digits, d.isAsciiDigit = true := fun d hd =>
      Decimal.isAsciiDigit_of_mem_ofNat (hcons ▸ hd)
    have hzero : c ≠ CodePoint.ofChar '0' := by
      rw [hcons] at hhead
      simpa using hhead
    have hrestdigits : ∀ d ∈ digits, d.isAsciiDigit = true := fun d hd => hall d (by simp [hd])
    rw [hcons, List.cons_append, whole?]
    simp only [if_neg hzero, hall c (by simp), if_true, takeWhile_digits hrestdigits hrest,
      dropWhile_digits hrestdigits hrest]

theorem digitsValue_ofNat (n : Nat) : digitsValue (Decimal.ofNat n) = n :=
  Decimal.value_digits_ofNat n

/-- A written integer is read back. -/
theorem number_ofInt {n : Int} (h : ¬ Decimal.maxDigits < Decimal.digitCount n.natAbs)
    {rest : Text} (hrest : Closes rest) :
    number (Decimal.ofInt n ++ rest) = .ok (.int n, rest) := by
  have hlength : ¬ (Decimal.ofNat n.natAbs).length > Decimal.maxDigits := by simpa using h
  have hwhole := whole?_ofNat n.natAbs hrest
  obtain ⟨-, -, hfraction, hexponent⟩ := hrest.no_number
  by_cases hneg : n < 0
  · have hvalue : -((n.natAbs : Nat) : Int) = n := by omega
    rw [Decimal.ofInt, if_pos hneg, List.cons_append, number]
    simp only [List.head?_cons, CodePoint.some_bind_ofChar, beq_self_eq_true, if_true,
      List.drop_succ_cons, List.drop_zero, hwhole, hfraction, hexponent, and_self,
      if_neg hlength, digitsValue_ofNat, hvalue]
  · have hvalue : ((n.natAbs : Nat) : Int) = n := by omega
    obtain ⟨c, digits, hcons⟩ := List.exists_cons_of_ne_nil (Decimal.ofNat_ne_nil n.natAbs)
    have hminus : ((Decimal.ofNat n.natAbs ++ rest).head? == some (CodePoint.ofChar '-')) =
        false := by
      have hdigit : c.isAsciiDigit = true :=
        Decimal.isAsciiDigit_of_mem_ofNat (n := n.natAbs) (by simp [hcons])
      have hc : c ≠ CodePoint.ofChar '-' := by rintro rfl; exact absurd hdigit (by decide)
      rw [hcons]
      simp [hc]
    rw [Decimal.ofInt, if_neg hneg, number]
    simp only [CodePoint.some_bind_ofChar, hminus, Bool.false_eq_true, if_false, hwhole,
      hfraction, hexponent, and_self, if_true, if_neg hlength, digitsValue_ofNat, hvalue]

end Reader
end Json
end Signet
