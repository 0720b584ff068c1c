import Mathlib
import Signet.Proofs.Assoc
import Signet.Proofs.Json.Order

/-!
# The value that a written form spells

Writing sorts the members of every object, and reading keeps the last of several members
with one key. What is read back is therefore the normal form of a value. It agrees with
the value in every member as long as no object has a key twice.
-/
namespace Signet
namespace Json

/-! ## Written parts -/

theorem writeItems_eq (items : List Json) : writeItems items = items.map write := by
  induction items with
  | nil => rfl
  | cons v rest ih => rw [writeItems, ih, List.map_cons]

theorem writeMembers_eq (members : List (Text × Json)) :
    writeMembers members = members.map fun p => (p.1, write p.2) := by
  induction members with
  | nil => rfl
  | cons p rest ih => rw [writeMembers, ih, List.map_cons]

/-- The members of a written object, in the order of their keys. -/
theorem write_object (members : List (Text × Json)) :
    write (.object members) =
      "\x7b" ++ joinMembers ((sortKeys members).map fun p => (p.1, write p.2)) ++ "\x7d" := by
  rw [write, writeMembers_eq, sortKeys_map]

theorem write_array (items : List Json) :
    write (.array items) = "[" ++ Text.join "," (items.map write) ++ "]" := by
  rw [write, writeItems_eq]

/-! ## Faults of numbers -/

theorem itemsFault?_eq_none_iff {items : List Json} :
    itemsFault? items = none ↔ ∀ v ∈ items, numberFault? v = none := by
  induction items with
  | nil => simp [itemsFault?]
  | cons v rest ih => simp [itemsFault?, Option.or_eq_none_iff, ih]

theorem memberFaults_eq (members : List (Text × Json)) :
    memberFaults members = members.map fun p => (p.1, numberFault? p.2) := by
  induction members with
  | nil => rfl
  | cons p rest ih => rw [memberFaults, ih, List.map_cons]

/-- An object can be written if the values of all its members can. -/
theorem numberFault?_object_eq_none_iff {members : List (Text × Json)} :
    numberFault? (.object members) = none ↔ ∀ p ∈ members, numberFault? p.2 = none := by
  rw [numberFault?, memberFaults_eq, List.findSome?_eq_none_iff]
  simp only [mem_sortKeys, List.mem_map]
  constructor
  · intro h p hp
    exact h _ ⟨p, hp, rfl⟩
  · rintro h _ ⟨p, hp, rfl⟩
    exact h p hp

theorem numberFault?_array_eq_none_iff {items : List Json} :
    numberFault? (.array items) = none ↔ ∀ v ∈ items, numberFault? v = none := by
  rw [numberFault?, itemsFault?_eq_none_iff]

/-! ## Values without binary numbers -/

/-- No binary number occurs. -/
inductive FloatFree : Json → Prop where
  | null : FloatFree .null
  | bool (b : Bool) : FloatFree (.bool b)
  | int (n : Int) : FloatFree (.int n)
  | text (t : Text) : FloatFree (.text t)
  | array {items : List Json} (h : ∀ v ∈ items, FloatFree v) : FloatFree (.array items)
  | object {members : List (Text × Json)} (h : ∀ p ∈ members, FloatFree p.2) :
    FloatFree (.object members)

/-! ## Normal form -/

mutual

/-- The members of objects in the order of their keys; of several with one key the last one. -/
def normal : Json → Json
  | .array items => .array (normalItems items)
  | .object members => .object (Assoc.putAll [] (sortKeys (normalMembers members)))
  | v => v

def normalItems : List Json → List Json
  | [] => []
  | v :: rest => normal v :: normalItems rest

def normalMembers : List (Text × Json) → Members
  | [] => []
  | (k, v) :: rest => (k, normal v) :: normalMembers rest

end

@[simp] theorem normal_text (t : Text) : normal (.text t) = .text t := by rw [normal] <;> simp

@[simp] theorem normal_int (n : Int) : normal (.int n) = .int n := by rw [normal] <;> simp

@[simp] theorem normal_array (items : List Json) :
    normal (.array items) = .array (items.map normal) := by
  have hitems : normalItems items = items.map normal := by
    induction items with
    | nil => rfl
    | cons v rest ih => rw [normalItems, ih, List.map_cons]
  rw [normal, hitems]

theorem normal_object (members : List (Text × Json)) :
    normal (.object members) =
      .object (Assoc.putAll [] ((sortKeys members).map fun p => (p.1, normal p.2))) := by
  have hmembers : normalMembers members = members.map fun p => (p.1, normal p.2) := by
    induction members with
    | nil => rfl
    | cons p rest ih => rw [normalMembers, ih, List.map_cons]
  rw [normal, hmembers, sortKeys_map]

theorem distinct_sortKeys {α : Type} {members : Assoc Text α} (h : members.Distinct) :
    Assoc.Distinct (sortKeys members) :=
  h.perm (sortKeys_perm members).symm

/-- The order of pairs with distinct keys does not show when they are sorted. -/
theorem sortKeys_eq_of_perm {α : Type} {a b : Assoc Text α} (ha : a.Distinct) (h : a.Perm b) :
    sortKeys a = sortKeys b := by
  refine List.Perm.eq_of_pairwise ?_ (sorted_sortKeys a) (sorted_sortKeys b)
    (((sortKeys_perm a).trans h).trans (sortKeys_perm b).symm)
  intro p q hp hq hpq hqp
  have hq' : q ∈ a := h.mem_iff.2 (mem_sortKeys.1 hq)
  exact List.inj_on_of_nodup_map ha (mem_sortKeys.1 hp) hq' (Text.le_antisymm hpq hqp)

theorem distinct_map {α β : Type} {members : Assoc Text α} (h : members.Distinct) (f : α → β) :
    Assoc.Distinct (members.map fun p => (p.1, f p.2)) := by
  simpa [Assoc.Distinct, Function.comp_def] using h

/-- With distinct keys the normal form of an object is the object in the order of its keys. -/
theorem normal_object_of_distinct {members : Members} (h : members.Distinct) :
    normal (.object members) = .object ((sortKeys members).map fun p => (p.1, normal p.2)) := by
  have hd := distinct_map (distinct_sortKeys h) normal
  rw [normal_object, Assoc.putAll_of_distinct (by simpa using hd), List.nil_append]

/-- With distinct keys the members of the normal form are the normal forms of the members. -/
theorem member?_normal {members : Members} (h : members.Distinct) (key : Text) :
    (normal (.object members)).member? key = (members.get? key).map normal := by
  rw [normal_object_of_distinct h, member?, Assoc.lookup_map,
    Assoc.lookup_perm (distinct_sortKeys h) (sortKeys_perm members)]

end Json
end Signet
