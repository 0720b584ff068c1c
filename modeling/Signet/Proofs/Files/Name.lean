import Mathlib
import Signet.Files.Tree

/-!
# Names of files

A name with a zero character, or with a surrogate that stands for no byte, is none that a file
could have. Reading a file tells this apart from everything else that may be wrong.

## Main definitions

* `FileTree.Unnameable` — no file can have the name.
* `FileTree.Writable` — a file can be written under the name.
-/
namespace Signet

/-- The name is one that no file can have. -/
def FileFault.IsOfName : FileFault → Prop
  | .nullCharacter | .unencodable _ => True
  | _ => False

namespace FileTree

/-- No name of a file has the character. -/
def IsForbidden (c : CodePoint) : Prop :=
  c = .ofNat 0 ∨ c.isSurrogate = true ∧ standsForByte c = false

/-- No file can have the name. -/
def Unnameable (name : Text) : Prop := ∃ c ∈ name, IsForbidden c

/-- The name leads to a place where there is no directory. -/
def Writable (tree : FileTree) (name : Text) : Prop :=
  ∃ place, tree.locate name = .ok place ∧ tree.node? place ≠ some .directory

variable {tree : FileTree} {name : Text}

theorem unencodable?_eq_none_iff {position : Nat} :
    unencodable? position name = none ↔
      ¬ ∃ c ∈ name, c.isSurrogate = true ∧ standsForByte c = false := by
  induction name generalizing position with
  | nil => simp [unencodable?]
  | cons c rest ih =>
    rw [unencodable?]
    by_cases hc : c.isSurrogate = true ∧ standsForByte c = false
    · simp [hc]
    · rw [if_neg (by simpa using hc), ih]
      simp only [List.mem_cons, exists_eq_or_imp, hc, false_or]

/-- A walk does not look at the characters of a name. -/
theorem not_isOfName_of_walk {place : Location} {parts : List Text} {fault : FileFault}
    (h : tree.walk place parts = .error fault) : ¬ fault.IsOfName := by
  induction parts generalizing place with
  | nil => cases h
  | cons part rest ih =>
    rw [walk] at h
    split at h
    · cases h
      exact id
    · cases h
      exact id
    · split_ifs at h
      · exact ih h
      · exact ih h
      · cases h
        exact id
      · exact ih h

theorem locate_fault_iff (tree : FileTree) (name : Text) :
    (∃ fault, tree.locate name = .error fault ∧ fault.IsOfName) ↔ Unnameable name := by
  rw [locate]
  cases hencode : unencodable? 0 name with
  | some e =>
    have hbad : ∃ c ∈ name, c.isSurrogate = true ∧ standsForByte c = false := by
      by_contra hnone
      rw [unencodable?_eq_none_iff.2 hnone] at hencode
      cases hencode
    obtain ⟨c, hmem, hc⟩ := hbad
    exact iff_of_true ⟨_, rfl, trivial⟩ ⟨c, hmem, .inr hc⟩
  | none =>
    have hgood := unencodable?_eq_none_iff.1 hencode
    dsimp only
    split_ifs with hzero hempty hlong
    · rw [List.contains_iff_mem] at hzero
      exact iff_of_true ⟨_, rfl, trivial⟩ ⟨_, hzero, .inl rfl⟩
    all_goals
      have hnameable : ¬ Unnameable name := by
        rintro ⟨c, hmem, rfl | hc⟩
        · exact hzero (List.contains_iff_mem.2 hmem)
        · exact hgood ⟨c, hmem, hc⟩
      refine iff_of_false ?_ hnameable
      rintro ⟨fault, hfault, hname⟩
    · cases hfault
      exact hname
    · cases hfault
      exact hname
    all_goals exact not_isOfName_of_walk hfault hname

/-- Reading finds out that no file can have the name. -/
theorem read_fault_iff (tree : FileTree) (name : Text) :
    (∃ e, tree.read name = .error e ∧ e.fault.IsOfName) ↔ Unnameable name := by
  rw [← locate_fault_iff tree, read, find]
  cases tree.locate name with
  | error fault =>
    constructor
    · rintro ⟨_, ⟨⟩, hname⟩
      exact ⟨fault, rfl, hname⟩
    · rintro ⟨_, ⟨⟩, hname⟩
      exact ⟨_, rfl, hname⟩
  | ok place =>
    refine iff_of_false ?_ (by simp)
    rintro ⟨e, he, hname⟩
    cases hnode : tree.node? place with
    | none =>
      simp only [Bind.bind, Except.bind, hnode] at he
      cases he
      exact hname
    | some node =>
      simp only [Bind.bind, Except.bind, hnode] at he
      cases node with
      | file content => cases he
      | directory =>
        cases he
        exact hname

/-- Writing a file fails exactly where none can be written. -/
theorem write_fails_iff {content : Bytes} :
    (∃ e, tree.write name content = .error e) ↔ ¬ tree.Writable name := by
  rw [write, Writable]
  cases tree.locate name with
  | error fault => simp
  | ok place =>
    dsimp only
    split_ifs with h <;> simp [h]

end FileTree
end Signet
