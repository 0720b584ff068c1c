import Mathlib
import Signet.Proofs.Json.Normal
import Signet.Proofs.Text.Decimal
import Signet.Proofs.Text.Hex
import Signet.Proofs.Text.Utf8

/-!
# Values that can be written

Numbers that are not finite, integers that are too long and surrogates in texts and keys are all
that can keep a value from having canonical bytes. Every such part of a value shows in the value:
its number is a fault of the whole, and its surrogate is a character of the written form, since
only characters below it are escaped.

## Main definitions

* `Json.Writable v` — no such part occurs in the value.
-/
namespace Signet

namespace Text

/-- No surrogate occurs in the text. -/
def Clean (t : Text) : Prop := ∀ c ∈ t, c.isSurrogate = false

instance (t : Text) : Decidable t.Clean :=
  inferInstanceAs (Decidable (∀ c ∈ t, c.isSurrogate = false))

theorem clean_of_ascii {t : Text} (h : ∀ c ∈ t, c.val < 0x80) : t.Clean := by
  intro c hc
  have hval := h c hc
  rw [CodePoint.isSurrogate_eq_false_iff]
  omega

theorem forall_mem_join {P : CodePoint → Prop} {separator : Text}
    (hseparator : ∀ c ∈ separator, P c) {texts : List Text} (h : ∀ t ∈ texts, ∀ c ∈ t, P c) :
    ∀ c ∈ join separator texts, P c := by
  induction texts with
  | nil => simp [join]
  | cons t texts ih =>
    have hrest := ih fun u hu => h u (by simp [hu])
    rcases texts with _ | ⟨u, texts⟩
    · exact h t (by simp)
    · have hjoin : join separator (t :: u :: texts) =
          t ++ separator ++ join separator (u :: texts) := rfl
      rw [hjoin, List.forall_mem_append, List.forall_mem_append]
      exact ⟨⟨h t (by simp), hseparator⟩, hrest⟩

theorem mem_join {separator t : Text} {texts : List Text} (ht : t ∈ texts) {c : CodePoint}
    (hc : c ∈ t) : c ∈ join separator texts := by
  induction texts with
  | nil => cases ht
  | cons u texts ih =>
    cases texts with
    | nil =>
      obtain rfl := List.mem_singleton.1 ht
      exact hc
    | cons v texts =>
      have hjoin : join separator (u :: v :: texts) =
          u ++ separator ++ join separator (v :: texts) := rfl
      rw [hjoin, List.mem_append, List.mem_append]
      rcases List.mem_cons.1 ht with rfl | ht
      · exact .inl (.inl hc)
      · exact .inr (ih ht)

theorem mem_of_mem_dropEnd {p : CodePoint → Bool} {t : Text} {c : CodePoint}
    (hc : c ∈ t.dropEnd p) : c ∈ t := by
  rw [dropEnd, List.mem_reverse] at hc
  exact List.mem_reverse.1 ((List.dropWhile_sublist p).mem hc)

end Text

namespace Decimal

theorem printable_ofNat (n : Nat) : ∀ c ∈ ofNat n, 0x20 ≤ c.val ∧ c.val < 0x7F := by
  intro c hc
  have hdigit := isAsciiDigit_of_mem_ofNat hc
  simp only [CodePoint.isAsciiDigit, Bool.and_eq_true, decide_eq_true_eq] at hdigit
  omega

end Decimal

namespace Binary64

theorem printable_zeros (count : Nat) : ∀ c ∈ zeros count, 0x20 ≤ c.val ∧ c.val < 0x7F := by
  intro c hc
  obtain rfl := List.eq_of_mem_replicate hc
  decide

/-- A number is written in digits, a point, a sign and the mark of an exponent. -/
theorem printable_layout (digits : Nat) (scale : Int) :
    ∀ c ∈ layout digits scale, 0x20 ≤ c.val ∧ c.val < 0x7F := by
  unfold layout
  extract_lets all text point n e size fraction sign
  have htext : ∀ c ∈ text, 0x20 ≤ c.val ∧ c.val < 0x7F :=
    fun c hc => Decimal.printable_ofNat digits c (Text.mem_of_mem_dropEnd hc)
  have htake (n : Nat) : ∀ c ∈ text.take n, 0x20 ≤ c.val ∧ c.val < 0x7F :=
    fun c hc => htext c (List.mem_of_mem_take hc)
  have hdrop (n : Nat) : ∀ c ∈ text.drop n, 0x20 ≤ c.val ∧ c.val < 0x7F :=
    fun c hc => htext c (List.mem_of_mem_drop hc)
  have hfraction : ∀ c ∈ fraction, 0x20 ≤ c.val ∧ c.val < 0x7F := by
    by_cases hone : text.length = 1
    · simp [fraction, hone]
    · rw [show fraction = "." ++ text.drop 1 from if_neg hone]
      exact List.forall_mem_append.2 ⟨by decide, hdrop 1⟩
  have hsign : ∀ c ∈ sign, 0x20 ≤ c.val ∧ c.val < 0x7F := by
    simp only [sign]
    split <;> decide
  split_ifs
  · exact List.forall_mem_append.2
      ⟨List.forall_mem_append.2 ⟨by decide, printable_zeros _⟩, htext⟩
  · exact List.forall_mem_append.2
      ⟨List.forall_mem_append.2 ⟨htext, printable_zeros _⟩, by decide⟩
  · exact List.forall_mem_append.2
      ⟨List.forall_mem_append.2 ⟨htake n, by decide⟩, hdrop n⟩
  · simp only [List.forall_mem_append]
    exact ⟨⟨⟨⟨htake 1, hfraction⟩, hsign⟩, printable_zeros _⟩, Decimal.printable_ofNat _⟩

end Binary64

namespace Json

/-- Induction on values, through the items of arrays and the members of objects. -/
@[elab_as_elim]
theorem inductionOn {P : Json → Prop} (v : Json) (null : P .null) (bool : ∀ b, P (.bool b))
    (int : ∀ n, P (.int n)) (float : ∀ x, P (.float x)) (text : ∀ t, P (.text t))
    (array : ∀ items, (∀ v ∈ items, P v) → P (.array items))
    (object : ∀ members : List (Text × Json), (∀ p ∈ members, P p.2) → P (.object members)) :
    P v := by
  match v with
  | .null => exact null
  | .bool b => exact bool b
  | .int n => exact int n
  | .float x => exact float x
  | .text t => exact text t
  | .array items =>
    exact array items fun w _ => inductionOn w null bool int float text array object
  | .object members =>
    exact object members fun p _ => inductionOn p.2 null bool int float text array object
termination_by sizeOf v
decreasing_by
  · rename_i hw
    have hsize := List.sizeOf_lt_of_mem hw
    simp only [Json.array.sizeOf_spec]
    omega
  · rename_i hp
    have hsize := List.sizeOf_lt_of_mem hp
    have hpair : sizeOf p = 1 + sizeOf p.1 + sizeOf p.2 := rfl
    simp only [Json.object.sizeOf_spec]
    omega

/-! ## The characters of a written form -/

section Characters

variable {P : CodePoint → Prop} (hP : ∀ c : CodePoint, 0x20 ≤ c.val → c.val < 0x7F → P c)
include hP

theorem forall_mem_of_ascii {t : Text} (h : ∀ c ∈ t, 0x20 ≤ c.val ∧ c.val < 0x7F) :
    ∀ c ∈ t, P c :=
  fun c hc => hP c (h c hc).1 (h c hc).2

theorem forall_mem_writeText {t : Text} (h : ∀ c ∈ t, 0x20 ≤ c.val → P c) :
    ∀ c ∈ writeText t, P c := by
  have hcharacter (c : CodePoint) (hc : 0x20 ≤ c.val → P c) : ∀ d ∈ writeCharacter c, P d := by
    unfold writeCharacter
    split_ifs with _ _ hcontrol
    · exact forall_mem_of_ascii hP (by decide)
    · exact forall_mem_of_ascii hP (by decide)
    · exact forall_mem_of_ascii hP (by decide)
    · exact forall_mem_of_ascii hP (by decide)
    · exact forall_mem_of_ascii hP (by decide)
    · exact forall_mem_of_ascii hP (by decide)
    · exact forall_mem_of_ascii hP (by decide)
    · rw [List.forall_mem_append]
      exact ⟨forall_mem_of_ascii hP (by decide),
        forall_mem_of_ascii hP (Hex.forall_mem_fixed (by decide) _ _)⟩
    · simpa using hc (by omega)
  rw [writeText, List.forall_mem_append, List.forall_mem_append]
  refine ⟨⟨forall_mem_of_ascii hP (by decide), ?_⟩, forall_mem_of_ascii hP (by decide)⟩
  intro d hd
  obtain ⟨c, hc, hd⟩ := List.mem_flatMap.1 hd
  exact hcharacter c (h c hc) d hd

theorem forall_mem_ofInt (n : Int) : ∀ c ∈ Decimal.ofInt n, P c := by
  rw [Decimal.ofInt]
  split
  · exact List.forall_mem_cons.2
      ⟨hP _ (by decide) (by decide), forall_mem_of_ascii hP (Decimal.printable_ofNat _)⟩
  · exact forall_mem_of_ascii hP (Decimal.printable_ofNat _)

theorem forall_mem_writeFloat (negative : Bool) (mantissa : Nat) (exponent : Int) :
    ∀ c ∈ writeFloat (.finite negative mantissa exponent), P c := by
  apply forall_mem_of_ascii hP
  have hsign : ∀ c ∈ (if negative then ("-" : Text) else ""), 0x20 ≤ c.val ∧ c.val < 0x7F := by
    cases negative <;> decide
  unfold writeFloat Binary64.toText?
  by_cases hzero : mantissa = 0
  · simp only [if_pos hzero]
    exact List.forall_mem_append.2 ⟨hsign, by decide⟩
  · simp only [if_neg hzero]
    exact List.forall_mem_append.2 ⟨hsign, Binary64.printable_layout _ _⟩

theorem forall_mem_write_array {items : List Json} (h : ∀ v ∈ items, ∀ c ∈ write v, P c) :
    ∀ c ∈ write (.array items), P c := by
  rw [write_array, List.forall_mem_append, List.forall_mem_append]
  refine ⟨⟨forall_mem_of_ascii hP (by decide), ?_⟩, forall_mem_of_ascii hP (by decide)⟩
  refine Text.forall_mem_join (forall_mem_of_ascii hP (by decide)) fun t ht => ?_
  obtain ⟨v, hv, rfl⟩ := List.mem_map.1 ht
  exact h v hv

theorem forall_mem_write_object {members : List (Text × Json)}
    (hkeys : ∀ p ∈ members, ∀ c ∈ p.1, 0x20 ≤ c.val → P c)
    (h : ∀ p ∈ members, ∀ c ∈ write p.2, P c) : ∀ c ∈ write (.object members), P c := by
  rw [write_object, joinMembers, List.map_map, List.forall_mem_append, List.forall_mem_append]
  refine ⟨⟨forall_mem_of_ascii hP (by decide), ?_⟩, forall_mem_of_ascii hP (by decide)⟩
  refine Text.forall_mem_join (forall_mem_of_ascii hP (by decide)) fun t ht => ?_
  obtain ⟨p, hp, rfl⟩ := List.mem_map.1 ht
  rw [mem_sortKeys] at hp
  simp only [Function.comp_apply, List.forall_mem_append]
  exact ⟨⟨forall_mem_writeText hP (hkeys p hp), forall_mem_of_ascii hP (by decide)⟩, h p hp⟩

end Characters


/-- A character beyond ASCII is written as it is. -/
theorem mem_writeText {t : Text} {c : CodePoint} (hc : c ∈ t) (hval : 0x80 ≤ c.val) :
    c ∈ writeText t := by
  have hquote : c ≠ '"' := by
    rintro rfl
    exact absurd hval (by decide)
  have hbackslash : c ≠ '\\' := by
    rintro rfl
    exact absurd hval (by decide)
  have hcharacter : writeCharacter c = [c] := by
    rw [writeCharacter, if_neg hquote, if_neg hbackslash, if_neg (by omega)]
  have hmem : c ∈ t.flatMap writeCharacter :=
    List.mem_flatMap.2 ⟨c, hc, hcharacter ▸ List.mem_singleton_self c⟩
  exact List.mem_append_left _ (List.mem_append_right _ hmem)

theorem mem_write_array {items : List Json} {v : Json} (hv : v ∈ items) {c : CodePoint}
    (hc : c ∈ write v) : c ∈ write (.array items) := by
  rw [write_array]
  exact List.mem_append_left _
    (List.mem_append_right _ (Text.mem_join (List.mem_map_of_mem hv) hc))

theorem mem_write_object {members : List (Text × Json)} {p : Text × Json} (hp : p ∈ members)
    {c : CodePoint} (hc : c ∈ writeText p.1 ∨ c ∈ write p.2) : c ∈ write (.object members) := by
  have hmember : c ∈ writeText p.1 ++ ":" ++ write p.2 := by
    rw [List.mem_append, List.mem_append]
    exact hc.imp .inl id
  rw [write_object, joinMembers, List.map_map]
  exact List.mem_append_left _ (List.mem_append_right _
    (Text.mem_join (List.mem_map.2 ⟨p, mem_sortKeys.2 hp, rfl⟩) hmember))

/-! ## Values that can be written -/

/-- No number that is not finite, no integer that is too long and no surrogate occurs in the
value. -/
inductive Writable : Json → Prop where
  | null : Writable .null
  | bool (b : Bool) : Writable (.bool b)
  | int {n : Int} (h : Decimal.digitCount n.natAbs ≤ Decimal.maxDigits) : Writable (.int n)
  | float (negative : Bool) (mantissa : Nat) (exponent : Int) :
    Writable (.float (.finite negative mantissa exponent))
  | text {t : Text} (h : t.Clean) : Writable (.text t)
  | array {items : List Json} (h : ∀ v ∈ items, Writable v) : Writable (.array items)
  | object {members : List (Text × Json)} (hkeys : ∀ p ∈ members, Text.Clean p.1)
    (h : ∀ p ∈ members, Writable p.2) : Writable (.object members)

theorem Writable.numberFault?_eq_none {v : Json} (h : v.Writable) : numberFault? v = none := by
  induction h with
  | null | bool _ | text _ | float _ _ _ => rw [numberFault?] <;> simp
  | int hn => rw [numberFault?, if_neg (by omega)]
  | array _ ih => exact numberFault?_array_eq_none_iff.2 ih
  | object _ _ ih => exact numberFault?_object_eq_none_iff.2 ih

theorem Writable.clean_write {v : Json} (h : v.Writable) : (write v).Clean := by
  have hascii : ∀ c : CodePoint, 0x20 ≤ c.val → c.val < 0x7F → c.isSurrogate = false := by
    intro c _ hc
    rw [CodePoint.isSurrogate_eq_false_iff]
    omega
  induction h with
  | null => exact (by decide : Text.Clean "null")
  | bool b =>
    cases b with
    | true => exact (by decide : Text.Clean "true")
    | false => exact (by decide : Text.Clean "false")
  | int _ => exact forall_mem_ofInt hascii _
  | float negative mantissa exponent => exact forall_mem_writeFloat hascii negative mantissa exponent
  | text ht => exact forall_mem_writeText hascii fun c hc _ => ht c hc
  | array _ ih => exact forall_mem_write_array hascii ih
  | object hkeys _ ih =>
    exact forall_mem_write_object hascii (fun p hp c hc _ => hkeys p hp c hc) ih

theorem clean_of_clean_writeText {t : Text} (h : (writeText t).Clean) : t.Clean := by
  intro c hc
  by_cases hval : 0x80 ≤ c.val
  · exact h c (mem_writeText hc hval)
  · rw [CodePoint.isSurrogate_eq_false_iff]
    omega

/-- Each part that cannot be written keeps the whole from it. -/
theorem writable_of_clean_write {v : Json} (hnumber : numberFault? v = none)
    (hclean : (write v).Clean) : v.Writable := by
  induction v using inductionOn with
  | null => exact .null
  | bool b => exact .bool b
  | int n =>
    rw [numberFault?] at hnumber
    by_cases hn : Decimal.maxDigits < Decimal.digitCount n.natAbs
    · rw [if_pos hn] at hnumber
      cases hnumber
    · exact .int (by omega)
  | float x =>
    cases x with
    | finite negative mantissa exponent => exact .float negative mantissa exponent
    | infinite negative => simp [numberFault?] at hnumber
    | nan => simp [numberFault?] at hnumber
  | text t =>
    rw [write] at hclean
    exact .text (clean_of_clean_writeText hclean)
  | array items ih =>
    rw [numberFault?_array_eq_none_iff] at hnumber
    exact .array fun v hv =>
      ih v hv (hnumber v hv) fun c hc => hclean c (mem_write_array hv hc)
  | object members ih =>
    rw [numberFault?_object_eq_none_iff] at hnumber
    apply Writable.object
    · intro p hp
      exact clean_of_clean_writeText fun c hc => hclean c (mem_write_object hp (.inl hc))
    · intro p hp
      exact ih p hp (hnumber p hp) fun c hc => hclean c (mem_write_object hp (.inr hc))

/-- Exactly the values that can be written have canonical bytes. -/
theorem canonical_eq_ok_iff {v : Json} : (∃ bytes, canonical v = .ok bytes) ↔ v.Writable := by
  constructor
  · intro h
    obtain ⟨bytes, h⟩ := h
    rw [canonical] at h
    split at h
    · cases h
    · rename_i hnumber
      cases hencode : Utf8.encode (write v) with
      | error e =>
        rw [hencode] at h
        cases h
      | ok encoded => exact writable_of_clean_write hnumber (Utf8.encode_eq_ok_iff.1 hencode).1
  · intro h
    rw [canonical, h.numberFault?_eq_none]
    have hencode := Utf8.encode_eq_ok h.clean_write
    simp only [hencode]
    exact ⟨_, rfl⟩

end Json
end Signet
