import Mathlib
import Signet.Program.Run
import Signet.Proofs.Settings.Storage

/-!
# Courses of storing commands

A storing command loads its configuration, finds its options, takes in what is to be stored and
then stores it. Only the last of these steps talks to the registry, and each step is taken only if
the ones before it succeed.

## Main definitions

* `Program.Configures` — the options of the store that settings and arguments make.
* `Program.StoreSteps` — the courses of a storing command by the step at which they end.
* `Program.settled` — what becomes of the result of such a course.
-/
namespace Signet
namespace Program

open Attempt (Yields)

variable {w : Surroundings} {s : Settings} {a : StoringArguments} {xs : List Exchange}

/-- The settings and the arguments make the options of the store. -/
def Configures (w : Surroundings) (s : Settings) (a : StoringArguments) (o : StoreOptions) : Prop :=
  ∃ config, Yields (StorageConfig.load s) [] (.ok config) ∧ a.storeOptions w config = .ok o

/-- The courses of a storing command by the step at which they end. -/
inductive StoreSteps (w : Surroundings) (s : Settings) (a : StoringArguments)
    (request : Except CommandFailure StoreRequest) :
    List Exchange → Except CommandFailure Ending → Prop where
  /-- A setting cannot be used. -/
  | unconfigured {f : ConfigFailure} (h : Yields (StorageConfig.load s) [] (.error f)) :
    StoreSteps w s a request [] (.error (.ofConfig f))
  /-- The options cannot be made. -/
  | unaddressed {config : StorageConfig} {e : CommandFailure}
    (hconfig : Yields (StorageConfig.load s) [] (.ok config))
    (h : a.storeOptions w config = .error e) : StoreSteps w s a request [] (.error e)
  /-- There is nothing to store. -/
  | unread {o : StoreOptions} {e : CommandFailure} (hoptions : Configures w s a o)
    (h : request = .error e) : StoreSteps w s a request [] (.error e)
  /-- There was a store. -/
  | stored {o : StoreOptions} {q : StoreRequest} {xs : List Exchange} {r : Except StoreFailure Unit}
    (hoptions : Configures w s a o) (hrequest : request = .ok q)
    (h : Yields (Storing.store o q) xs r) :
    StoreSteps w s a request xs
      ((r.map fun _ => { code := .success, files := w.files }).mapError CommandFailure.ofStore)

variable {request : Except CommandFailure StoreRequest} {r : Except CommandFailure Ending}

theorem storeSteps (h : Yields (a.store w s request) xs r) : StoreSteps w s a request xs r := by
  rcases Attempt.yields_bind.1 h with ⟨e, he, rfl⟩ | ⟨ys, zs, config, rfl, hconfig, hoption⟩
  · obtain ⟨f | config, hload, hf⟩ := Attempt.yields_mapError.1 he
    · cases hf
      obtain rfl := (StorageConfig.decides_load s).nil hload
      exact .unconfigured hload
    · cases hf
  obtain ⟨f | config, hload, hf⟩ := Attempt.yields_mapError.1 hconfig
  · cases hf
  cases hf
  obtain rfl := (StorageConfig.decides_load s).nil hload
  rw [List.nil_append]
  rcases Attempt.yields_bind.1 hoption with
    ⟨e, ⟨rfl, he⟩, rfl⟩ | ⟨_, _, o, rfl, ⟨rfl, ho⟩, hread⟩
  · exact .unaddressed hload he.symm
  have hoptions : Configures w s a o := ⟨config, hload, ho.symm⟩
  rcases Attempt.yields_bind.1 hread with
    ⟨e, ⟨rfl, he⟩, rfl⟩ | ⟨_, _, q, rfl, ⟨rfl, hq⟩, hlast⟩
  · exact .unread hoptions he.symm
  rcases Attempt.yields_bind.1 hlast with ⟨e, he, rfl⟩ | ⟨ys, _, _, rfl, hok, rfl, rfl⟩
  · obtain ⟨e' | _, hstore, hmap⟩ := Attempt.yields_mapError.1 he
    · cases hmap
      exact .stored hoptions hq.symm hstore
    · cases hmap
  · obtain ⟨e' | _, hstore, hmap⟩ := Attempt.yields_mapError.1 hok
    · cases hmap
    · rw [List.nil_append, List.nil_append, List.append_nil]
      exact .stored hoptions hq.symm hstore

theorem StoreSteps.yields (h : StoreSteps w s a request xs r) :
    Yields (a.store w s request) xs r := by
  have hconfigured {config : StorageConfig}
      (hload : Yields (StorageConfig.load s) [] (.ok config)) :
      Yields ((StorageConfig.load s).mapError CommandFailure.ofConfig) [] (.ok config) :=
    Attempt.yields_mapError.2 ⟨_, hload, rfl⟩
  cases h with
  | unconfigured hload =>
    exact Attempt.yields_bind.2 (.inl ⟨_, Attempt.yields_mapError.2 ⟨_, hload, rfl⟩, rfl⟩)
  | @unaddressed config e hload he =>
    refine Attempt.yields_bind.2 (.inr ⟨[], [], config, rfl, hconfigured hload, ?_⟩)
    exact Attempt.yields_bind.2 (.inl ⟨e, ⟨rfl, he.symm⟩, rfl⟩)
  | @unread o e hoptions he =>
    obtain ⟨config, hload, ho⟩ := hoptions
    refine Attempt.yields_bind.2 (.inr ⟨[], [], config, rfl, hconfigured hload, ?_⟩)
    refine Attempt.yields_bind.2 (.inr ⟨[], [], o, rfl, ⟨rfl, ho.symm⟩, ?_⟩)
    exact Attempt.yields_bind.2 (.inl ⟨e, ⟨rfl, he.symm⟩, rfl⟩)
  | @stored o q xs r hoptions hq hstore =>
    obtain ⟨config, hload, ho⟩ := hoptions
    refine Attempt.yields_bind.2 (.inr ⟨[], xs, config, rfl, hconfigured hload, ?_⟩)
    refine Attempt.yields_bind.2 (.inr ⟨[], xs, o, rfl, ⟨rfl, ho.symm⟩, ?_⟩)
    refine Attempt.yields_bind.2 (.inr ⟨[], xs, q, rfl, ⟨rfl, hq.symm⟩, ?_⟩)
    have hend : Yields ((Storing.store o q).mapError CommandFailure.ofStore) xs
        (r.mapError CommandFailure.ofStore) :=
      Attempt.yields_mapError.2 ⟨r, hstore, rfl⟩
    cases r with
    | error e => exact Attempt.yields_bind.2 (.inl ⟨_, hend, rfl⟩)
    | ok _ =>
      exact Attempt.yields_bind.2 (.inr ⟨xs, [], (), (List.append_nil xs).symm, hend, rfl, rfl⟩)

theorem Configures.unique {o o' : StoreOptions} (h : Configures w s a o)
    (h' : Configures w s a o') : o = o' := by
  obtain ⟨config, hload, ho⟩ := h
  obtain ⟨config', hload', ho'⟩ := h'
  cases Session.yields_unique hload hload'
  exact Except.ok.inj (ho.symm.trans ho')

/-- With options and a request, there is a store. -/
theorem stored_of_configures {o : StoreOptions} {q : StoreRequest} (hoptions : Configures w s a o)
    (h : Yields (a.store w s (.ok q)) xs r) :
    ∃ r', Yields (Storing.store o q) xs r' ∧
      r = ((r'.map fun _ => { code := .success, files := w.files }).mapError
        CommandFailure.ofStore) := by
  have hsteps := storeSteps h
  obtain ⟨config, hload, ho⟩ := hoptions
  cases hsteps with
  | unconfigured hload' => cases Session.yields_unique hload hload'
  | unaddressed hload' he =>
    cases Session.yields_unique hload hload'
    cases ho.symm.trans he
  | unread _ he => cases he
  | stored hoptions' hrequest hstore =>
    cases hrequest
    cases hoptions'.unique ⟨config, hload, ho⟩
    exact ⟨_, hstore, rfl⟩

/-- What a caught result ends with. -/
def settled (w : Surroundings) : Except CommandFailure Ending → Except CommandFailure Ending
  | .ok ending => .ok ending
  | .error e =>
    match e.ending? with
    | some (code, _) => .ok { code, files := w.files }
    | none => .error e

/-- A failure that is caught leaves no exit code exactly if it has none. -/
theorem settled_fails_iff :
    (∃ e, settled w r = .error e) ↔ ∃ e, r = .error e ∧ e.ending? = none := by
  rcases r with e | ending
  · cases hending : e.ending? <;> simp [settled, hending]
  · simp [settled]

/-- A fault has no exit code, except that bytes are not decoded. -/
theorem ending?_fault {f : Fault} :
    (CommandFailure.fault f).ending? = none ↔ ∀ reason, f ≠ .text (.undecodable reason) := by
  rcases f with _ | _ | (_ | _) | _ | _ <;> simp [CommandFailure.ending?]

theorem settleCourse {attempt : Attempt CommandFailure Ending}
    (h : Yields (settle w attempt) xs r) : ∃ r', Yields attempt xs r' ∧ r = settled w r' := by
  rcases Attempt.yields_tryCatch.1 h with ⟨ending, hok, rfl⟩ | ⟨ys, zs, e, rfl, herror, hcatch⟩
  · exact ⟨_, hok, rfl⟩
  have hend : zs = [] ∧ r = settled w (.error e) := by
    rw [settled]
    cases hending : e.ending? with
    | none =>
      rw [hending] at hcatch
      exact hcatch
    | some pair =>
      rw [hending] at hcatch
      rcases Attempt.yields_bind.1 hcatch with ⟨_, ⟨-, he⟩, -⟩ | ⟨_, _, _, rfl, ⟨rfl, -⟩, hr⟩
      · cases he
      · exact hr
  obtain ⟨rfl, rfl⟩ := hend
  rw [List.append_nil]
  exact ⟨_, herror, rfl⟩

end Program
end Signet
