import Mathlib
import Signet.Proofs.Text.CodePoint
import Signet.Text.Decimal

/-!
# Decimal digits read back

The written form of a natural number has decimal digits only, starts with a zero only if
the number is zero, and spells the number when it is read.
-/
namespace Signet
namespace Decimal

theorem ofNat_ne_nil (n : Nat) : ofNat n ≠ [] := by simp [ofNat]

@[simp] theorem length_ofNat (n : Nat) : (ofNat n).length = digitCount n := by
  simp [ofNat, digitCount]

theorem isAsciiDigit_of_mem_ofNat {n : Nat} {c : CodePoint} (h : c ∈ ofNat n) :
    c.isAsciiDigit = true := by
  obtain ⟨d, hd, rfl⟩ := List.mem_map.1 h
  have hdigit := Nat.isDigit_of_mem_toDigits (by decide) (by decide) hd
  rw [Char.isDigit, Bool.and_eq_true, decide_eq_true_iff, decide_eq_true_iff] at hdigit
  rw [CodePoint.isAsciiDigit, CodePoint.val_ofChar, Bool.and_eq_true, decide_eq_true_iff,
    decide_eq_true_iff]
  exact ⟨hdigit.1, hdigit.2⟩

theorem decimalValue?_of_isAsciiDigit {c : CodePoint} (h : c.isAsciiDigit = true) :
    c.decimalValue? = some (c.val - 0x30) := by
  have hc : c.val < 0x80 := by
    simp only [CodePoint.isAsciiDigit, Bool.and_eq_true, decide_eq_true_eq] at h
    omega
  simp [CodePoint.decimalValue?, hc, h]

theorem isDigit_of_isAsciiDigit {c : CodePoint} (h : c.isAsciiDigit = true) :
    c.isDigit = true := by
  have hc : c.val < 0x80 := by
    simp only [CodePoint.isAsciiDigit, Bool.and_eq_true, decide_eq_true_eq] at h
    omega
  simp [CodePoint.isDigit, hc, h]

/-- The digits of a number spell it. -/
theorem value_digits_ofNat (n : Nat) : value 0 ((ofNat n).map fun c => c.val - 0x30) = n := by
  have hdigits := Nat.ofDigitChars_ten_toDigits (n := n)
  rw [Nat.ofDigitChars_eq_foldl] at hdigits
  simpa [value, ofNat, List.foldl_map] using hdigits

theorem ofNat_zero : ofNat 0 = ['0'] := by decide

theorem ofNat_of_lt_ten {n : Nat} (h : n < 10) : ofNat n = [CodePoint.ofChar n.digitChar] := by
  simp [ofNat, Nat.toDigits_of_lt_base h]

theorem ofNat_of_ten_le {n : Nat} (h : 10 ≤ n) :
    ofNat n = ofNat (n / 10) ++ [CodePoint.ofChar (n % 10).digitChar] := by
  simp [ofNat, Nat.toDigits_of_base_le (by decide : 1 < 10) h]

/-- A positive number does not start with a zero. -/
theorem head?_ofNat_ne_zero {n : Nat} (h : 0 < n) : (ofNat n).head? ≠ some ('0' : Char) := by
  induction n using Nat.strongRecOn with
  | _ n ih =>
    by_cases hten : n < 10
    · rw [ofNat_of_lt_ten hten]
      have hall : ∀ k < 10, 0 < k →
          ([CodePoint.ofChar k.digitChar] : Text).head? ≠ some (CodePoint.ofChar '0') := by decide
      exact hall n hten h
    · rw [ofNat_of_ten_le (by omega), List.head?_append_of_ne_nil _ (ofNat_ne_nil _)]
      exact ih (n / 10) (by omega) (by omega)

theorem isDigits_ofNat (n : Nat) : Text.isDigits (ofNat n) = true := by
  simp only [Text.isDigits, Bool.and_eq_true, Bool.not_eq_true', List.isEmpty_eq_false_iff,
    List.all_eq_true]
  exact ⟨ofNat_ne_nil n, fun c hc => isDigit_of_isAsciiDigit (isAsciiDigit_of_mem_ofNat hc)⟩

theorem scan_of_digits (started : Bool) {t : Text} (h : ∀ c ∈ t, c.isAsciiDigit = true) :
    scan started t = some (t.map fun c => c.val - 0x30, []) := by
  induction t generalizing started with
  | nil => rfl
  | cons c rest ih =>
    have hc := decimalValue?_of_isAsciiDigit (h c (by simp))
    have hrest := ih true fun d hd => h d (by simp [hd])
    simp [scan, hc, hrest]

/-- A written natural number is read back, unless it has more digits than are read. -/
theorem readInt_ofNat (n : Nat) : readInt (ofNat n) =
    if digitCount n ≤ maxDigits then .ok (n : Int) else .error (.tooLong (digitCount n)) := by
  obtain ⟨c, rest, hcons⟩ := List.exists_cons_of_ne_nil (ofNat_ne_nil n)
  have hdigit : c.isAsciiDigit = true := isAsciiDigit_of_mem_ofNat (by rw [hcons]; simp)
  have hbounds : 0x30 ≤ c.val ∧ c.val ≤ 0x39 := by
    simpa [CodePoint.isAsciiDigit] using hdigit
  have hmargin : isMargin c = false := by
    have hc : c.val < 0x80 := by omega
    simp only [isMargin, hc, if_true, CodePoint.isAsciiBlank, Bool.or_eq_false_iff,
      beq_eq_false_iff_ne, Bool.and_eq_false_iff, decide_eq_false_iff_not]
    omega
  have hbody : (ofNat n).dropWhile isMargin = ofNat n := by rw [hcons]; simp [hmargin]
  have hminus : c ≠ CodePoint.ofChar '-' := by rintro rfl; exact absurd hdigit (by decide)
  have hplus : c ≠ CodePoint.ofChar '+' := by rintro rfl; exact absurd hdigit (by decide)
  have hsign : ((ofNat n).head? == some (CodePoint.ofChar '-')) = false ∧
      ((ofNat n).head? == some (CodePoint.ofChar '+')) = false := by
    rw [hcons]
    simp [hminus, hplus]
  have hscan := scan_of_digits false fun d hd => isAsciiDigit_of_mem_ofNat (n := n) hd
  have hcount : ((ofNat n).map fun c => c.val - 0x30).length = digitCount n := by simp
  have hempty : ((ofNat n).map fun c => c.val - 0x30).isEmpty = false := by
    simp [ofNat_ne_nil]
  simp only [readInt, hbody, CodePoint.some_bind_ofChar, hsign.1, hsign.2, Bool.or_self,
    Bool.false_eq_true, if_false, hscan, hcount, hempty, List.all_nil, Bool.not_true,
    value_digits_ofNat, gt_iff_lt, ← Nat.not_le, ite_not]

theorem digitCount_le_of_lt {n : Nat} (h : n < 2 ^ 63) : digitCount n ≤ maxDigits := by
  have hlt : n < 10 ^ 19 := by omega
  have hle := (Nat.length_toDigits_le_iff (b := 10) (by decide) (by decide)).2 hlt
  have hmax : (19 : Nat) ≤ maxDigits := by decide
  exact le_trans hle hmax

end Decimal
end Signet
