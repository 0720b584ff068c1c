import Mathlib
import Signet.Assoc

/-!
# Maps with distinct keys

A map that is built by setting keys holds every key once. In such a map a look-up finds
exactly the pairs that are there, in whatever order they stand.
-/
namespace Signet
namespace Assoc

variable {κ α : Type}

/-- No key occurs twice. -/
def Distinct (pairs : Assoc κ α) : Prop := (pairs.map Prod.fst).Nodup

@[simp] theorem distinct_nil : Distinct ([] : Assoc κ α) := List.nodup_nil

theorem distinct_cons {p : κ × α} {rest : Assoc κ α} :
    Distinct (p :: rest) ↔ (∀ q ∈ rest, q.1 ≠ p.1) ∧ Distinct rest := by
  rw [Distinct, List.map_cons, List.nodup_cons, List.mem_map]
  constructor
  · rintro ⟨hnot, hrest⟩
    exact ⟨fun q hq he => hnot ⟨q, hq, he⟩, hrest⟩
  · rintro ⟨hnot, hrest⟩
    refine ⟨?_, hrest⟩
    rintro ⟨q, hq, he⟩
    exact hnot q hq he

theorem Distinct.perm {a b : Assoc κ α} (h : a.Distinct) (hp : a.Perm b) : b.Distinct :=
  (hp.map Prod.fst).nodup_iff.1 h

/-- Pairs with distinct keys are decided by their keys and the value at each of them. -/
theorem perm_of_keys {a b : Assoc κ α} (ha : a.Distinct)
    (hkeys : (a.map Prod.fst).Perm (b.map Prod.fst))
    (h : ∀ p ∈ a, ∀ q ∈ b, p.1 = q.1 → p.2 = q.2) : a.Perm b := by
  have hb : b.Distinct := hkeys.nodup_iff.1 ha
  rw [List.perm_ext_iff_of_nodup (List.Nodup.of_map _ ha) (List.Nodup.of_map _ hb)]
  intro p
  constructor
  · intro hp
    obtain ⟨q, hq, hkey⟩ := List.mem_map.1 (hkeys.mem_iff.1 (List.mem_map_of_mem hp))
    rwa [Prod.ext hkey.symm (h p hp q hq hkey.symm)]
  · intro hp
    obtain ⟨q, hq, hkey⟩ := List.mem_map.1 (hkeys.mem_iff.2 (List.mem_map_of_mem hp))
    rwa [Prod.ext hkey.symm (h q hq p hp hkey).symm]

/-- Pairs with distinct keys that have the keys of other pairs in the same places are these pairs,
if they are the same in another order. -/
theorem eq_of_perm {a b : Assoc κ α} (hd : a.Distinct) (h : a.Perm b)
    (hkeys : a.map Prod.fst = b.map Prod.fst) : a = b := by
  induction a generalizing b with
  | nil => exact h.nil_eq
  | cons p rest ih =>
    cases b with
    | nil => exact absurd h.symm.nil_eq (List.cons_ne_nil p rest).symm
    | cons q others =>
      obtain ⟨hkey, hothers⟩ := List.cons.inj hkeys
      have hq : q ∈ p :: rest := h.mem_iff.2 List.mem_cons_self
      obtain rfl : p = q := List.inj_on_of_nodup_map hd List.mem_cons_self hq hkey
      rw [ih (distinct_cons.1 hd).2 h.cons_inv hothers]

variable [DecidableEq κ]

theorem mem_of_lookup_eq_some {key : κ} {value : α} {pairs : Assoc κ α}
    (h : lookup key pairs = some value) : (key, value) ∈ pairs := by
  induction pairs with
  | nil => simp at h
  | cons p rest ih =>
    obtain ⟨k, v⟩ := p
    by_cases hk : k = key
    · simp only [lookup, hk, if_true, Option.some.injEq] at h
      simp [hk, h]
    · simp only [lookup, if_neg hk] at h
      exact List.mem_cons_of_mem _ (ih h)

theorem lookup_eq_some_iff {key : κ} {value : α} {pairs : Assoc κ α} (hd : pairs.Distinct) :
    lookup key pairs = some value ↔ (key, value) ∈ pairs := by
  refine ⟨mem_of_lookup_eq_some, ?_⟩
  intro hmem
  induction pairs with
  | nil => simp at hmem
  | cons p rest ih =>
    obtain ⟨k, v⟩ := p
    obtain ⟨hnot, hrest⟩ := distinct_cons.1 hd
    rcases List.mem_cons.1 hmem with heq | hmem
    · obtain ⟨rfl, rfl⟩ := Prod.mk.inj heq
      simp [lookup]
    · have hk : k ≠ key := fun e => hnot _ hmem e.symm
      simp [lookup, hk, ih hrest hmem]

theorem lookup_eq_none_iff {key : κ} {pairs : Assoc κ α} :
    lookup key pairs = none ↔ key ∉ pairs.map Prod.fst := by
  induction pairs with
  | nil => simp
  | cons p rest ih =>
    by_cases hk : p.1 = key
    · simp [lookup, hk]
    · simp [lookup, hk, ih, Ne.symm hk]

/-- The order of the pairs does not count. -/
theorem lookup_perm {a b : Assoc κ α} (hd : a.Distinct) (hp : a.Perm b) (key : κ) :
    lookup key a = lookup key b := by
  apply Option.ext
  intro value
  rw [lookup_eq_some_iff hd, lookup_eq_some_iff (hd.perm hp), hp.mem_iff]

/-- Pairs with distinct keys are the same in another order exactly if every key has the same
value. -/
theorem perm_iff_forall_lookup_eq {a b : Assoc κ α} (ha : a.Distinct) (hb : b.Distinct) :
    a.Perm b ↔ ∀ key, lookup key a = lookup key b := by
  constructor
  · intro hp key
    exact lookup_perm ha hp key
  · intro h
    rw [List.perm_ext_iff_of_nodup (List.Nodup.of_map _ ha) (List.Nodup.of_map _ hb)]
    intro p
    rw [← lookup_eq_some_iff ha, ← lookup_eq_some_iff hb, h]

theorem lookup_map {β : Type} (f : α → β) (key : κ) (pairs : Assoc κ α) :
    lookup key (pairs.map fun p => (p.1, f p.2)) = (lookup key pairs).map f := by
  induction pairs with
  | nil => rfl
  | cons p rest ih =>
    by_cases hk : p.1 = key
    · simp [lookup, hk]
    · simp [lookup, hk, ih]

/-- A key that is not there is set at the end. -/
theorem put_of_forall_ne {key : κ} {pairs : Assoc κ α} (h : ∀ p ∈ pairs, p.1 ≠ key) (value : α) :
    put key value pairs = pairs ++ [(key, value)] := by
  induction pairs with
  | nil => rfl
  | cons p rest ih =>
    have hp : p.1 ≠ key := h p (by simp)
    simp [put, hp, ih fun q hq => h q (by simp [hq])]

/-- Setting a key to the value that it has changes nothing. -/
theorem put_of_lookup {key : κ} {value : α} {pairs : Assoc κ α}
    (h : lookup key pairs = some value) : put key value pairs = pairs := by
  induction pairs with
  | nil => cases h
  | cons p rest ih =>
    obtain ⟨k, v⟩ := p
    by_cases hk : k = key
    · rw [lookup, if_pos hk, Option.some.injEq] at h
      rw [put, if_pos hk, hk, h]
    · rw [lookup, if_neg hk] at h
      rw [put, if_neg hk, ih h]

theorem mem_put {key : κ} {value : α} {pairs : Assoc κ α} {p : κ × α}
    (h : p ∈ put key value pairs) : p = (key, value) ∨ p ∈ pairs := by
  induction pairs with
  | nil => exact .inl (by simpa [put] using h)
  | cons q rest ih =>
    by_cases hq : q.1 = key
    · simp only [put, hq, if_true, List.mem_cons] at h
      exact h.imp_right fun h => List.mem_cons_of_mem _ h
    · simp only [put, if_neg hq, List.mem_cons] at h
      rcases h with rfl | h
      · exact .inr (by simp)
      · exact (ih h).imp_right fun h => List.mem_cons_of_mem _ h

theorem Distinct.put {pairs : Assoc κ α} (h : pairs.Distinct) (key : κ) (value : α) :
    (put key value pairs).Distinct := by
  induction pairs with
  | nil => simp [Assoc.put, Distinct]
  | cons q rest ih =>
    obtain ⟨hnot, hrest⟩ := distinct_cons.1 h
    by_cases hq : q.1 = key
    · simp only [Assoc.put, hq, if_true]
      exact distinct_cons.2 ⟨fun p hp => hq ▸ hnot p hp, hrest⟩
    · simp only [Assoc.put, if_neg hq]
      refine distinct_cons.2 ⟨fun p hp => ?_, ih hrest⟩
      rcases mem_put hp with rfl | hp
      · exact fun e => hq e.symm
      · exact hnot p hp

/-- Setting distinct new keys one after the other appends them. -/
theorem putAll_of_distinct {before news : Assoc κ α} (h : Distinct (before ++ news)) :
    putAll before news = before ++ news := by
  induction news generalizing before with
  | nil => simp [putAll]
  | cons p rest ih =>
    have hnew : ∀ q ∈ before, q.1 ≠ p.1 := by
      intro q hq he
      rw [Distinct, List.map_append, List.nodup_append] at h
      exact h.2.2 q.1 (List.mem_map_of_mem hq) p.1 (by simp) he
    have hstep : putAll before (p :: rest) = putAll (before ++ [p]) rest := by
      rw [putAll, List.foldl_cons, put_of_forall_ne hnew]
      rfl
    rw [hstep, ih (by simpa using h)]
    simp

end Assoc
end Signet
