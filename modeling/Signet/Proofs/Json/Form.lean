import Mathlib
import Signet.Proofs.Json.Normal

/-!
# What the canonical bytes of a value depend on

The canonical bytes are made of the written text and of the first number that cannot be
written. Both are made of those of the parts of a value, and for an object its members count
in the order of their keys, so the order in which they are given does not matter.
-/
namespace Signet
namespace Json

/-- The written text and the first number that cannot be written. -/
def form (v : Json) : Text × Option CanonicalFault := (v.write, v.numberFault?)

theorem canonical_eq_of_form {v w : Json} (h : v.form = w.form) : v.canonical = w.canonical := by
  obtain ⟨hwrite, hfault⟩ := Prod.mk.inj h
  rw [canonical, canonical, hwrite, hfault]

theorem itemsFault?_eq (items : List Json) :
    itemsFault? items = (items.map numberFault?).findSome? id := by
  induction items with
  | nil => rfl
  | cons v rest ih =>
    rw [itemsFault?, ih, List.map_cons, List.findSome?_cons, id_eq]
    cases numberFault? v <;> rfl

theorem form_array {items items' : List Json} (h : items.map form = items'.map form) :
    form (.array items) = form (.array items') := by
  have hwrite : items.map write = items'.map write := by
    simpa [form, Function.comp_def] using congrArg (List.map Prod.fst) h
  have hfault : items.map numberFault? = items'.map numberFault? := by
    simpa [form, Function.comp_def] using congrArg (List.map Prod.snd) h
  rw [form, form, write_array, write_array, hwrite, numberFault?, numberFault?, itemsFault?_eq,
    itemsFault?_eq, hfault]

/-- The members of an object count in the order of their keys. -/
theorem form_object {members members' : List (Text × Json)}
    (h : (sortKeys members).map (fun p => (p.1, form p.2)) =
      (sortKeys members').map fun p => (p.1, form p.2)) :
    form (.object members) = form (.object members') := by
  have hwrite : (sortKeys members).map (fun p => (p.1, write p.2)) =
      (sortKeys members').map fun p => (p.1, write p.2) := by
    simpa [form, Function.comp_def] using congrArg (List.map fun q => (q.1, q.2.1)) h
  have hfault : (sortKeys members).map (fun p => (p.1, numberFault? p.2)) =
      (sortKeys members').map fun p => (p.1, numberFault? p.2) := by
    simpa [form, Function.comp_def] using congrArg (List.map fun q => (q.1, q.2.2)) h
  rw [form, form, write_object, write_object, hwrite, numberFault?, numberFault?, memberFaults_eq,
    memberFaults_eq, sortKeys_map, sortKeys_map, hfault]

theorem form_object_of_map {members members' : List (Text × Json)}
    (h : members.map (fun p => (p.1, form p.2)) = members'.map fun p => (p.1, form p.2)) :
    form (.object members) = form (.object members') := by
  apply form_object
  rw [← sortKeys_map, ← sortKeys_map, h]

end Json
end Signet
