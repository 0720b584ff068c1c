import Mathlib
import Signet.Proofs.Exchange.Course

/-!
# Checks before the first request

Before a client sends anything it checks one thing after the other. It sends nothing while it
does, and the first check that fails says how the client fails.

## Main definitions

* `Reached` — all checks before one of a list pass.
* `Attempt.Decides` — an attempt that sends nothing, with its failure if it fails.
-/
namespace Signet

variable {ε ε' α β γ : Type}

/-- The failure of a result that is one. -/
def failureOf : Except ε α → Option ε
  | .ok _ => none
  | .error e => some e

@[simp] theorem failureOf_ok (a : α) : failureOf (.ok a : Except ε α) = none := rfl

@[simp] theorem failureOf_error (e : ε) : failureOf (.error e : Except ε α) = some e := rfl

theorem failureOf_eq_some_iff {r : Except ε α} {e : ε} : failureOf r = some e ↔ r = .error e := by
  cases r <;> simp

@[simp] theorem failureOf_mapError (r : Except ε α) (f : ε → ε') :
    failureOf (r.mapError f) = (failureOf r).map f := by
  cases r <;> rfl

@[simp] theorem failureOf_map (r : Except ε α) (f : α → β) :
    failureOf (r.map f) = failureOf r := by
  cases r <;> rfl

/-- The first of two results that is a failure decides. -/
theorem failureOf_bind {r : Except ε α} {g : α → Except ε β} {o : Option ε}
    (hg : ∀ a, r = .ok a → failureOf (g a) = o) : failureOf (r >>= g) = (failureOf r).or o := by
  cases r with
  | ok a => exact hg a rfl
  | error e => rfl

@[simp] theorem failureOf_bind_pure (r : Except ε α) (g : α → β) :
    failureOf (r >>= fun a => pure (g a)) = failureOf r := by
  cases r <;> rfl

theorem bind_eq_ok_iff {r : Except ε α} {g : α → Except ε β} {b : β} :
    r >>= g = .ok b ↔ ∃ a, r = .ok a ∧ g a = .ok b := by
  cases r <;> simp [Bind.bind, Except.bind]

/-- One goes on behind a check only if it does not throw. -/
theorem ite_throw_eq_ok_iff {c : Prop} [Decidable c] {e : ε} {g : α → Except ε β}
    {r : Except ε β} {b : β} : (if c then throw e >>= g else r) = .ok b ↔ ¬ c ∧ r = .ok b := by
  by_cases h : c
  · simp [h, throw, throwThe, MonadExceptOf.throw, Bind.bind, Except.bind]
  · simp [h]

theorem forM_eq_ok_iff {f : α → Except ε Unit} {items : List α} :
    items.forM f = .ok () ↔ ∀ item ∈ items, f item = .ok () := by
  induction items with
  | nil => simp [pure, Except.pure]
  | cons item rest ih =>
    have hcons : (item :: rest).forM f = f item >>= fun _ => rest.forM f := rfl
    rw [hcons, bind_eq_ok_iff, ih, List.forall_mem_cons]
    exact ⟨fun ⟨_, h⟩ => h, fun h => ⟨(), h⟩⟩

@[simp] theorem mapError_eq_ok_iff {r : Except ε α} {f : ε → ε'} {a : α} :
    r.mapError f = .ok a ↔ r = .ok a := by
  cases r <;> simp [Except.mapError]

/-- The check is one of the list, and all checks before it pass. -/
def Reached (failure? : γ → Option ε) (checks : List γ) (check : γ) : Prop :=
  ∃ before after, checks = before ++ check :: after ∧ ∀ earlier ∈ before, failure? earlier = none

section Reached

variable {failure? : γ → Option ε} {checks : List γ}

theorem findSome?_eq_some_iff_reached {e : ε} :
    checks.findSome? failure? = some e ↔
      ∃ check, Reached failure? checks check ∧ failure? check = some e := by
  rw [List.findSome?_eq_some_iff]
  constructor
  · rintro ⟨before, check, after, hchecks, hfails, hpass⟩
    exact ⟨check, ⟨before, after, hchecks, hpass⟩, hfails⟩
  · rintro ⟨check, ⟨before, after, hchecks, hpass⟩, hfails⟩
    exact ⟨before, check, after, hchecks, hfails, hpass⟩

theorem findSome?_cons_eq_or (check : γ) :
    (check :: checks).findSome? failure? = (failure? check).or (checks.findSome? failure?) := by
  cases h : failure? check <;> simp [h]

end Reached

namespace Attempt

/-- The attempt sends nothing, and fails in the given way or not at all. -/
def Decides (attempt : Attempt ε α) (o : Option ε) : Prop :=
  ∃ r, Same attempt (ofExcept r) ∧ failureOf r = o

section Decides

variable {attempt : Attempt ε α} {o : Option ε}

theorem decides_pure (a : α) : Decides (pure a : Attempt ε α) none :=
  ⟨.ok a, fun _ _ => Iff.rfl, rfl⟩

theorem decides_ofExcept (r : Except ε α) : Decides (ofExcept r) (failureOf r) :=
  ⟨r, Same.refl _, rfl⟩

theorem decides_log (level : Level) (message : Text) :
    Decides (log level message : Attempt ε Unit) none :=
  ⟨.ok (), fun _ _ => Iff.rfl, rfl⟩

theorem Decides.bind (h : Decides attempt o) {f : α → Attempt ε β} {o' : Option ε}
    (hf : ∀ a, Decides (f a) o') : Decides (attempt >>= f) (o.or o') := by
  obtain ⟨r, hsame, rfl⟩ := h
  cases r with
  | error e =>
    refine ⟨.error e, fun xs r => ?_, rfl⟩
    simp [yields_bind, hsame _ _]
  | ok a =>
    obtain ⟨r, hsame', rfl⟩ := hf a
    refine ⟨r, fun xs r' => ?_, rfl⟩
    simp [yields_bind, hsame _ _, hsame' _ _]

theorem Decides.mapError (h : Decides attempt o) (f : ε → ε') :
    Decides (attempt.mapError f) (o.map f) := by
  obtain ⟨r, hsame, rfl⟩ := h
  refine ⟨r.mapError f, fun xs r' => ?_, failureOf_mapError r f⟩
  simp [yields_mapError, hsame _ _]

theorem Decides.yields_error_iff (h : Decides attempt o) {xs : List Exchange} {e : ε} :
    Yields attempt xs (.error e) ↔ xs = [] ∧ o = some e := by
  obtain ⟨r, hsame, rfl⟩ := h
  rw [hsame _ _, yields_ofExcept, failureOf_eq_some_iff, @eq_comm _ r]

theorem Decides.nil (h : Decides attempt o) {xs : List Exchange} {r : Except ε α}
    (hr : Yields attempt xs r) : xs = [] := by
  obtain ⟨_, hsame, -⟩ := h
  exact ((hsame _ _).1 hr).1

theorem Decides.fails_iff (h : Decides attempt o) {xs : List Exchange} {r : Except ε α}
    (hr : Yields attempt xs r) : (∃ e, r = .error e) ↔ ∃ e, o = some e := by
  obtain ⟨_, hsame, rfl⟩ := h
  obtain ⟨-, rfl⟩ := (hsame _ _).1 hr
  simp only [failureOf_eq_some_iff]

end Decides
end Attempt
end Signet
