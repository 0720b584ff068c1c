import Mathlib
import Signet.Proofs.Json.Writable

/-!
# Plain values

A plain value is one that can be written and has no binary number, so it is read back as it is.
-/
namespace Signet

namespace Json

/-- No surrogate, no binary number and no integer that is too long occurs in the value. -/
inductive Plain : Json → Prop where
  | null : Plain .null
  | bool (b : Bool) : Plain (.bool b)
  | int {n : Int} (h : Decimal.digitCount n.natAbs ≤ Decimal.maxDigits) : Plain (.int n)
  | text {t : Text} (h : t.Clean) : Plain (.text t)
  | array {items : List Json} (h : ∀ v ∈ items, Plain v) : Plain (.array items)
  | object {members : List (Text × Json)} (hkeys : ∀ p ∈ members, Text.Clean p.1)
    (h : ∀ p ∈ members, Plain p.2) : Plain (.object members)

theorem Plain.floatFree {v : Json} (h : v.Plain) : FloatFree v := by
  induction h with
  | null => exact .null
  | bool b => exact .bool b
  | int _ => exact .int _
  | text _ => exact .text _
  | array _ ih => exact .array ih
  | object _ _ ih => exact .object ih

theorem Plain.writable {v : Json} (h : v.Plain) : v.Writable := by
  induction h with
  | null => exact .null
  | bool b => exact .bool b
  | int hn => exact .int hn
  | text ht => exact .text ht
  | array _ ih => exact .array ih
  | object hkeys _ ih => exact .object hkeys ih

/-- No control character occurs in a written form. -/
theorem FloatFree.le_of_mem_write {v : Json} (h : v.FloatFree) : ∀ c ∈ write v, 0x20 ≤ c.val := by
  have hascii : ∀ c : CodePoint, 0x20 ≤ c.val → c.val < 0x7F → 0x20 ≤ c.val := fun _ hc _ => hc
  induction h with
  | null => decide
  | bool b => cases b <;> decide
  | int n => exact forall_mem_ofInt hascii n
  | text t => exact forall_mem_writeText hascii fun _ _ hc => hc
  | array _ ih => exact forall_mem_write_array hascii ih
  | object _ ih => exact forall_mem_write_object hascii (fun _ _ _ _ hc => hc) ih

/-- A plain value has a canonical form. -/
theorem Plain.canonical_eq_ok {v : Json} (h : v.Plain) : ∃ bytes, canonical v = .ok bytes :=
  canonical_eq_ok_iff.2 h.writable

end Json
end Signet
