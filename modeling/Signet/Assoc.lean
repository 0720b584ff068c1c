/-!
# Ordered maps

A map is a list of pairs in the order in which its keys were first set. Setting a key that
is there replaces its value and keeps its place; looking up finds the first pair of a key.
-/
namespace Signet

/-- Pairs of keys and values. -/
abbrev Assoc (κ α : Type) := List (κ × α)

namespace Assoc

variable {κ α : Type} [DecidableEq κ]

def lookup (key : κ) : Assoc κ α → Option α
  | [] => none
  | (k, v) :: rest => if k = key then some v else lookup key rest

/-- Sets the value of a key: in its place if it is there, at the end otherwise. -/
def put (key : κ) (value : α) : Assoc κ α → Assoc κ α
  | [] => [(key, value)]
  | (k, v) :: rest => if k = key then (key, value) :: rest else (k, v) :: put key value rest

def remove (key : κ) (pairs : Assoc κ α) : Assoc κ α := pairs.filter fun p => p.1 ≠ key

/-- Sets the values of several keys, one after the other. -/
def putAll (pairs news : Assoc κ α) : Assoc κ α := news.foldl (fun m p => put p.1 p.2 m) pairs

@[simp] theorem lookup_nil (key : κ) : lookup key ([] : Assoc κ α) = none := rfl

theorem lookup_put (key k : κ) (value : α) (pairs : Assoc κ α) :
    lookup k (put key value pairs) = if k = key then some value else lookup k pairs := by
  induction pairs with
  | nil => by_cases h : key = k <;> simp [put, lookup, h, eq_comm]
  | cons p rest ih =>
    obtain ⟨k', v'⟩ := p
    by_cases h : k' = key
    · subst h
      by_cases h' : k' = k
      · simp [put, lookup, h']
      · simp [put, lookup, h', Ne.symm h']
    · by_cases h' : k' = k
      · subst h'
        simp [put, lookup, h]
      · simp [put, lookup, h, h', ih]

end Assoc
end Signet
