import Mathlib
import Signet.Json.Document
import Signet.Proofs.Assoc

/-!
# Keys of values that were read

The reader puts each member to those before it, so no key occurs twice in an object that
was read, however deep it stands. The induction is on the fuel of the reader and runs
through values, items and members together.
-/
namespace Signet
namespace Json

theorem members?_eq_some_iff {v : Json} {members : Members} :
    v.members? = some members ↔ v = .object members := by
  cases v <;> simp [members?]

theorem items?_eq_some_iff {v : Json} {items : List Json} :
    v.items? = some items ↔ v = .array items := by
  cases v <;> simp [items?]

/-- No object in the value has a key twice. -/
inductive UniqueKeys : Json → Prop where
  | null : UniqueKeys .null
  | bool (b : Bool) : UniqueKeys (.bool b)
  | int (n : Int) : UniqueKeys (.int n)
  | float (x : Binary64) : UniqueKeys (.float x)
  | text (t : Text) : UniqueKeys (.text t)
  | array {items : List Json} (h : ∀ v ∈ items, UniqueKeys v) : UniqueKeys (.array items)
  | object {members : Members} (hd : members.Distinct) (h : ∀ p ∈ members, UniqueKeys p.2) :
    UniqueKeys (.object members)

namespace UniqueKeys

variable {members : Members}

theorem distinct (h : UniqueKeys (.object members)) : members.Distinct := by
  cases h with
  | object hd _ => exact hd

theorem of_mem {items : List Json} (h : UniqueKeys (.array items)) {v : Json} (hv : v ∈ items) :
    UniqueKeys v := by
  cases h with
  | array h => exact h v hv

theorem of_get? (h : UniqueKeys (.object members)) {key : Text} {v : Json}
    (hv : members.get? key = some v) : UniqueKeys v := by
  cases h with
  | object _ h => exact h _ (Assoc.mem_of_lookup_eq_some hv)

/-- Setting a member keeps the keys apart. -/
theorem put (h : UniqueKeys (.object members)) (key : Text) {v : Json} (hv : UniqueKeys v) :
    UniqueKeys (.object (Assoc.put key v members)) := by
  cases h with
  | object hd h =>
    apply UniqueKeys.object (hd.put key v)
    intro p hp
    rcases Assoc.mem_put hp with rfl | hp
    · exact hv
    · exact h p hp

end UniqueKeys

namespace Reader

theorem uniqueKeys_number {t rest : Text} {v : Json} (h : number t = .ok (v, rest)) :
    UniqueKeys v := by
  rw [number] at h
  split at h
  · cases h
  · dsimp only at h
    split at h
    · split at h
      · cases h
      · cases h
        exact .int _
    · cases h
      exact .float _

theorem uniqueKeys_scalar {t rest : Text} {v : Json} (h : scalar t = .ok (v, rest)) :
    UniqueKeys v := by
  rw [scalar] at h
  split at h
  · rename_i name w hfind
    cases h
    have hmem := List.mem_of_find?_eq_some hfind
    simp only [names, List.mem_cons, List.not_mem_nil, or_false, Prod.mk.injEq] at hmem
    rcases hmem with ⟨-, rfl⟩ | ⟨-, rfl⟩ | ⟨-, rfl⟩ | ⟨-, rfl⟩ | ⟨-, rfl⟩ | ⟨-, rfl⟩
    · exact .null
    · exact .bool _
    · exact .bool _
    · exact .float _
    · exact .float _
    · exact .float _
  · exact uniqueKeys_number h

theorem eq_of_map_eq_ok {α β : Type} {x : Result α} {f : α × Text → β × Text} {r : β × Text}
    (h : x.map f = .ok r) : ∃ a, x = .ok a ∧ f a = r := by
  cases x with
  | error e => cases h
  | ok a => exact ⟨a, rfl, by simpa [Except.map] using h⟩

/-- What the readers of values, items and members with some fuel give has unique keys. -/
structure KeepKeysApart (fuel : Nat) : Prop where
  value : ∀ {t rest : Text} {v : Json}, value fuel t = .ok (v, rest) → UniqueKeys v
  items : ∀ {t rest : Text} {vs : List Json}, items fuel t = .ok (vs, rest) → UniqueKeys (.array vs)
  members : ∀ {t rest : Text} {before ms : Members}, UniqueKeys (.object before) →
    members fuel before t = .ok (ms, rest) → UniqueKeys (.object ms)

theorem KeepKeysApart.value_succ {fuel : Nat} (ih : KeepKeysApart fuel) {t rest : Text} {v : Json}
    (h : Reader.value (fuel + 1) t = .ok (v, rest)) : UniqueKeys v := by
  rw [Reader.value.eq_def] at h
  dsimp only at h
  split at h
  · cases h
  split_ifs at h
  · obtain ⟨r, -, hr⟩ := eq_of_map_eq_ok h
    cases hr
    exact .text _
  · cases h
    exact .object Assoc.distinct_nil (by simp)
  · obtain ⟨r, hmembers, hr⟩ := eq_of_map_eq_ok h
    cases hr
    exact ih.members (.object Assoc.distinct_nil (by simp)) hmembers
  · cases h
    exact .array (by simp)
  · obtain ⟨r, hitems, hr⟩ := eq_of_map_eq_ok h
    cases hr
    exact ih.items hitems
  · exact uniqueKeys_scalar h

theorem KeepKeysApart.items_succ {fuel : Nat} (ih : KeepKeysApart fuel) {t rest : Text}
    {vs : List Json} (h : Reader.items (fuel + 1) t = .ok (vs, rest)) :
    UniqueKeys (.array vs) := by
  rw [Reader.items] at h
  split at h
  · cases h
  rename_i v more hvalue
  have hv := ih.value hvalue
  dsimp only at h
  split_ifs at h
  · cases h
    exact .array (by simpa using hv)
  · obtain ⟨r, hitems, hr⟩ := eq_of_map_eq_ok h
    cases hr
    apply UniqueKeys.array
    intro w hw
    rcases List.mem_cons.1 hw with rfl | hw
    · exact hv
    · exact (ih.items hitems).of_mem hw

theorem KeepKeysApart.members_succ {fuel : Nat} (ih : KeepKeysApart fuel) {t rest : Text}
    {before ms : Members} (hbefore : UniqueKeys (.object before))
    (h : Reader.members (fuel + 1) before t = .ok (ms, rest)) : UniqueKeys (.object ms) := by
  rw [Reader.members] at h
  split_ifs at h
  split at h
  · cases h
  rename_i key behind _
  dsimp only at h
  split_ifs at h
  split at h
  · cases h
  rename_i v more hvalue
  have hput := hbefore.put key (ih.value hvalue)
  split_ifs at h
  · cases h
    exact hput
  · exact ih.members hput h

theorem keepKeysApart (fuel : Nat) : KeepKeysApart fuel := by
  induction fuel with
  | zero =>
    refine ⟨fun h => ?_, fun h => ?_, fun _ h => ?_⟩
    · rw [Reader.value] at h
      cases h
    · rw [Reader.items] at h
      cases h
    · rw [Reader.members] at h
      cases h
  | succ fuel ih => exact ⟨ih.value_succ, ih.items_succ, ih.members_succ⟩

end Reader

/-- No object in the value of a document has a key twice. -/
theorem uniqueKeys_readBytes {bytes : Bytes} {v : Json} (h : readBytes bytes = .ok v) :
    UniqueKeys v := by
  rw [readBytes] at h
  split at h
  · cases h
  rename_i t _
  rw [read, Reader.document] at h
  split at h
  · cases h
  rename_i w rest hvalue
  dsimp only at h
  split_ifs at h
  · cases h
    exact (Reader.keepKeysApart _).value hvalue
  · cases h

end Json
end Signet
