import Mathlib
import Signet.Proofs.Json.Form
import Signet.Proofs.Json.Keys
import Signet.Proofs.Json.RoundTrip

/-!
# Canonical bytes

The canonical bytes of a value are a form of it that loses nothing but the order of members.
They can be read back, and two values have the same bytes exactly if one is the other with the
members of its objects in another order.

## Main definitions

* `Json.Rearranged v w` — the values agree up to the order of members, at every depth.
-/
namespace Signet

namespace Json

/-! ## Values up to the order of members -/

/-- The values agree up to the order of the members of objects, at every depth. -/
inductive Rearranged : Json → Json → Prop where
  | null : Rearranged .null .null
  | bool (b : Bool) : Rearranged (.bool b) (.bool b)
  | int (n : Int) : Rearranged (.int n) (.int n)
  | float (x : Binary64) : Rearranged (.float x) (.float x)
  | text (t : Text) : Rearranged (.text t) (.text t)
  | array {items items' : List Json} (hlength : items.length = items'.length)
    (h : ∀ (i : Nat) (v v' : Json), items[i]? = some v → items'[i]? = some v' →
      Rearranged v v') :
    Rearranged (.array items) (.array items')
  | object {members members' : Members}
    (hkeys : (members.map Prod.fst).Perm (members'.map Prod.fst))
    (h : ∀ p ∈ members, ∀ p' ∈ members', p.1 = p'.1 → Rearranged p.2 p'.2) :
    Rearranged (.object members) (.object members')

namespace Rearranged

variable {u v w : Json}

theorem symm (h : Rearranged v w) : Rearranged w v := by
  induction h with
  | null => exact .null
  | bool b => exact .bool b
  | int n => exact .int n
  | float x => exact .float x
  | text t => exact .text t
  | array hlength _ ih => exact .array hlength.symm fun i v v' hv hv' => ih i v' v hv' hv
  | object hkeys _ ih =>
    exact .object hkeys.symm fun p hp p' hp' hkey => ih p' hp' p hp hkey.symm

theorem trans (h : Rearranged u v) (h' : Rearranged v w) : Rearranged u w := by
  induction h generalizing w with
  | null | bool _ | int _ | float _ | text _ => exact h'
  | @array items items' hlength _ ih =>
    cases h' with
    | array hlength' h' =>
      refine .array (hlength.trans hlength') fun i u w hu hw => ?_
      obtain ⟨v, hv⟩ : ∃ v, items'[i]? = some v := by
        obtain ⟨hi, -⟩ := List.getElem?_eq_some_iff.1 hu
        exact ⟨_, List.getElem?_eq_getElem (hlength ▸ hi)⟩
      exact ih i u v hu hv (h' i v w hv hw)
  | @object members members' hkeys _ ih =>
    cases h' with
    | object hkeys' h' =>
      refine .object (hkeys.trans hkeys') fun p hp q hq hkey => ?_
      obtain ⟨p', hp', hkey'⟩ := List.mem_map.1 (hkeys.mem_iff.1 (List.mem_map_of_mem hp))
      exact ih p hp p' hp' hkey'.symm (h' p' hp' q hq (hkey'.trans hkey))

/-- The normal form of a value has its members in another order. -/
theorem normal (h : v.UniqueKeys) : Rearranged v v.normal := by
  induction h with
  | null => rw [Json.normal] <;> first | exact .null | simp
  | bool b => rw [Json.normal] <;> first | exact .bool b | simp
  | int n =>
    rw [normal_int]
    exact .int n
  | float x => rw [Json.normal] <;> first | exact .float x | simp
  | text t =>
    rw [normal_text]
    exact .text t
  | @array items _ ih =>
    rw [normal_array]
    refine .array (List.length_map _).symm fun i v v' hv hv' => ?_
    rw [List.getElem?_map, hv] at hv'
    cases hv'
    exact ih v (List.mem_of_getElem? hv)
  | @object members hd _ ih =>
    rw [normal_object_of_distinct hd]
    refine .object ?_ fun p hp p' hp' hkey => ?_
    · simpa [Function.comp_def] using ((sortKeys_perm members).map Prod.fst).symm
    · obtain ⟨q, hq, rfl⟩ := List.mem_map.1 hp'
      have hsame : p = q := List.inj_on_of_nodup_map hd hp (mem_sortKeys.1 hq) hkey
      rw [← hsame]
      exact ih p hp

/-- The order of members does not show in the written form. -/
theorem form_eq (h : Rearranged v w) (hv : v.UniqueKeys) (hw : w.UniqueKeys) :
    form v = form w := by
  induction h with
  | null | bool _ | int _ | float _ | text _ => rfl
  | @array items items' hlength _ ih =>
    apply form_array
    apply List.ext_getElem?
    intro i
    rw [List.getElem?_map, List.getElem?_map]
    cases hitem : items[i]? with
    | none =>
      have hnone : items'[i]? = none := by
        rw [List.getElem?_eq_none_iff] at hitem ⊢
        omega
      rw [hnone]
    | some v =>
      obtain ⟨hi, -⟩ := List.getElem?_eq_some_iff.1 hitem
      have hitem' : items'[i]? = some items'[i] := List.getElem?_eq_getElem (hlength ▸ hi)
      rw [hitem', Option.map_some, Option.map_some, ih i v _ hitem hitem'
        (hv.of_mem (List.mem_of_getElem? hitem)) (hw.of_mem (List.mem_of_getElem? hitem'))]
  | @object members members' hkeys _ ih =>
    cases hv with
    | object hd hv =>
    cases hw with
    | object hd' hw =>
    apply form_object
    rw [← sortKeys_map, ← sortKeys_map]
    have hdistinct := distinct_map hd form
    refine sortKeys_eq_of_perm hdistinct (Assoc.perm_of_keys hdistinct ?_ ?_)
    · simpa [Function.comp_def] using hkeys
    · simp only [List.forall_mem_map]
      intro p hp p' hp' hkey
      exact ih p hp p' hp' hkey (hv p hp) (hw p' hp')

/-- A member of one object is a member of the other. -/
theorem get? {members members' : Members} (h : Rearranged (.object members) (.object members'))
    (key : Text) :
    members.get? key = none ∧ members'.get? key = none ∨
      ∃ v v', members.get? key = some v ∧ members'.get? key = some v' ∧ Rearranged v v' := by
  cases h with
  | object hkeys h =>
    cases hv : members.get? key with
    | none =>
      have hnone : members'.get? key = none := by
        rw [Members.get?, Assoc.lookup_eq_none_iff] at hv ⊢
        exact fun hmem => hv (hkeys.mem_iff.2 hmem)
      exact .inl ⟨rfl, hnone⟩
    | some v =>
      cases hv' : members'.get? key with
      | none =>
        rw [Members.get?, Assoc.lookup_eq_none_iff] at hv'
        have hmem := List.mem_map_of_mem (f := Prod.fst) (Assoc.mem_of_lookup_eq_some hv)
        exact absurd (hkeys.mem_iff.1 hmem) hv'
      | some v' =>
        have hsame := h _ (Assoc.mem_of_lookup_eq_some hv) _ (Assoc.mem_of_lookup_eq_some hv') rfl
        exact .inr ⟨v, v', rfl, rfl, hsame⟩

theorem text_iff {t t' : Text} : Rearranged (.text t) (.text t') ↔ t = t' := by
  constructor
  · intro h
    cases h
    rfl
  · intro h
    rw [h]
    exact .text t'

/-- Objects that begin with a member of one key agree if these members and the others do. -/
theorem object_cons_iff {key : Text} {v v' : Json} {members members' : Members}
    (hkey : ∀ p ∈ members, p.1 ≠ key) (hkey' : ∀ p ∈ members', p.1 ≠ key) :
    Rearranged (.object ((key, v) :: members)) (.object ((key, v') :: members')) ↔
      Rearranged v v' ∧ Rearranged (.object members) (.object members') := by
  constructor
  · intro h
    cases h with
    | object hkeys h =>
      refine ⟨h _ List.mem_cons_self _ List.mem_cons_self rfl, .object (hkeys.cons_inv) ?_⟩
      exact fun p hp p' hp' => h p (List.mem_cons_of_mem _ hp) p' (List.mem_cons_of_mem _ hp')
  · intro hboth
    obtain ⟨hv, hrest⟩ := hboth
    cases hrest with
    | object hkeys h =>
      refine .object (hkeys.cons key) fun p hp p' hp' hsame => ?_
      rcases List.mem_cons.1 hp with rfl | hp <;> rcases List.mem_cons.1 hp' with rfl | hp'
      · exact hv
      · exact absurd hsame.symm (hkey' p' hp')
      · exact absurd hsame (hkey p hp)
      · exact h p hp p' hp' hsame

theorem object_nil : Rearranged (.object []) (.object []) :=
  .object (.refl _) (List.forall_mem_nil _)

/-- Objects of one member each agree if the members do. -/
theorem object_singleton_iff (key : Text) {v v' : Json} :
    Rearranged (.object [(key, v)]) (.object [(key, v')]) ↔ Rearranged v v' := by
  rw [object_cons_iff (List.forall_mem_nil _) (List.forall_mem_nil _), and_iff_left object_nil]

end Rearranged

/-! ## The canonical form -/

/-- The canonical bytes of a plain value are read back as the value with its members in another
order. -/
theorem Plain.readBytes_canonical {v : Json} (hv : v.Plain) (hkeys : v.UniqueKeys) :
    ∃ bytes, v.canonical = .ok bytes ∧ readBytes bytes = .ok v.normal ∧
      Rearranged v.normal v := by
  obtain ⟨bytes, hbytes⟩ := hv.canonical_eq_ok
  exact ⟨bytes, hbytes, Json.readBytes_canonical hv.floatFree hbytes,
    (Rearranged.normal hkeys).symm⟩

/-- Plain values with the same canonical bytes have one normal form, so they agree up to the order
of members. -/
theorem Plain.canonical_eq_canonical_iff {v w : Json} (hv : v.Plain) (hkeys : v.UniqueKeys)
    (hw : w.Plain) (hkeys' : w.UniqueKeys) : v.canonical = w.canonical ↔ Rearranged v w := by
  constructor
  · intro h
    obtain ⟨bytes, hbytes, hread, -⟩ := hv.readBytes_canonical hkeys
    have hread' := Json.readBytes_canonical hw.floatFree (h.symm.trans hbytes)
    have hnormal : v.normal = w.normal := Except.ok.inj (hread.symm.trans hread')
    exact (Rearranged.normal hkeys).trans (hnormal ▸ (Rearranged.normal hkeys').symm)
  · exact fun h => canonical_eq_of_form (h.form_eq hkeys hkeys')

/-- Plain values have canonical bytes. These are read back as the value up to the order of
members, and they are the same for two values exactly if the values agree up to that order at
every depth. -/
theorem canonical_lossless {v w : Json} (hv : v.Plain) (hkeys : v.UniqueKeys) (hw : w.Plain)
    (hkeys' : w.UniqueKeys) :
    (∃ bytes u, v.canonical = .ok bytes ∧ readBytes bytes = .ok u ∧ Rearranged u v) ∧
      (v.canonical = w.canonical ↔ Rearranged v w) := by
  obtain ⟨bytes, hbytes, hread, hback⟩ := hv.readBytes_canonical hkeys
  exact ⟨⟨bytes, v.normal, hbytes, hread, hback⟩, hv.canonical_eq_canonical_iff hkeys hw hkeys'⟩

/-- A value with an object of the given members inside. -/
def nested (inner : Members) : Json :=
  .object [("b", .array [.bool true, .object inner]), ("a", .int 1)]

/-- Members with a line break and a character beyond ASCII. -/
def innerMembers : Members := [("y", .text "\u00e9\n"), ("x", .null)]

theorem canonical_lossless_nested :
    ((nested innerMembers).Plain ∧ (nested innerMembers).UniqueKeys ∧
      (nested innerMembers.reverse).Plain ∧ (nested innerMembers.reverse).UniqueKeys) ∧
    (∃ bytes u, (nested innerMembers).canonical = .ok bytes ∧ readBytes bytes = .ok u ∧
      Rearranged u (nested innerMembers)) ∧
    ((nested innerMembers).canonical = (nested innerMembers.reverse).canonical ↔
      Rearranged (nested innerMembers) (nested innerMembers.reverse)) := by
  have hpair {α : Type} {P : α → Prop} {a b : α} (h : P a ∧ P b) : ∀ x ∈ [a, b], P x := by
    simpa using h
  have hplain {inner : Members} (hclean : ∀ p ∈ inner, Text.Clean p.1)
      (h : ∀ p ∈ inner, Plain p.2) : (nested inner).Plain := by
    have hb : Text.Clean "b" := by decide
    have ha : Text.Clean "a" := by decide
    refine .object (hpair ⟨hb, ha⟩) (hpair ⟨.array ?_, .int (by decide)⟩)
    exact hpair ⟨.bool true, .object hclean h⟩
  have hunique {inner : Members} (hd : inner.Distinct) (h : ∀ p ∈ inner, UniqueKeys p.2) :
      (nested inner).UniqueKeys := by
    refine .object ?_ (hpair ⟨.array ?_, .int 1⟩)
    · exact (by decide : [("b" : Text), ("a" : Text)].Nodup)
    · exact hpair ⟨.bool true, .object hd h⟩
  have hinner : ∀ p ∈ innerMembers, Text.Clean p.1 ∧ Plain p.2 ∧ UniqueKeys p.2 :=
    hpair ⟨⟨by decide, .text (by decide), .text _⟩, by decide, .null, .null⟩
  have hd : innerMembers.Distinct := (by decide : [("y" : Text), ("x" : Text)].Nodup)
  have hturned : ∀ p ∈ innerMembers.reverse, p ∈ innerMembers := fun p => List.mem_reverse.1
  have hv := hplain (fun p hp => (hinner p hp).1) fun p hp => (hinner p hp).2.1
  have hkeys := hunique hd fun p hp => (hinner p hp).2.2
  have hv' := hplain (fun p hp => (hinner p (hturned p hp)).1)
    fun p hp => (hinner p (hturned p hp)).2.1
  have hkeys' := hunique (hd.perm (List.reverse_perm _).symm)
    fun p hp => (hinner p (hturned p hp)).2.2
  exact ⟨⟨hv, hkeys, hv', hkeys'⟩, canonical_lossless hv hkeys hv' hkeys'⟩

end Json
end Signet
