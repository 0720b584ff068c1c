import Mathlib
import Signet.Bytes.Sha256
import Signet.Entity
import Signet.Text.Hex

/-!
# Characters of digests

Hexadecimal text and digests of content are made of few characters, so a property of all of
their characters is checked on sixteen digits.
-/
namespace Signet

namespace Hex

variable {P : CodePoint → Prop}

theorem forall_mem_fixed (h : ∀ n < 16, P (digit n)) (width n : Nat) :
    ∀ c ∈ fixed width n, P c := by
  induction width generalizing n with
  | zero => simp [fixed]
  | succ width ih =>
    intro c hc
    rw [fixed, List.mem_append, List.mem_singleton] at hc
    rcases hc with hc | rfl
    · exact ih _ c hc
    · exact h _ (Nat.mod_lt n (by decide))

theorem forall_mem_encode (h : ∀ n < 16, P (digit n)) (bytes : Bytes) :
    ∀ c ∈ encode bytes, P c := by
  intro c hc
  simp only [encode, List.mem_flatMap, List.mem_cons, List.not_mem_nil, or_false] at hc
  obtain ⟨b, -, rfl | rfl⟩ := hc
  · have hb := b.toNat_lt
    exact h _ (by omega)
  · exact h _ (Nat.mod_lt _ (by decide))

end Hex

/-- What holds of the algorithm, the colon and hexadecimal digits holds of digests. -/
theorem forall_mem_sha256Digest {P : CodePoint → Prop} (hname : ∀ c ∈ ("sha256:" : Text), P c)
    (hdigit : ∀ n < 16, P (Hex.digit n)) (content : Bytes) : ∀ c ∈ sha256Digest content, P c := by
  intro c hc
  rcases List.mem_append.1 hc with hc | hc
  · exact hname c hc
  · exact Hex.forall_mem_encode hdigit _ c hc

end Signet
