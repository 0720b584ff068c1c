import Mathlib
import Signet.Proofs.Program.Course
import Signet.Proofs.Program.Input
import Signet.Proofs.Settings.Defaults
import Signet.Proofs.Storage.Fault

/-!
# Runs without an exit code

Most of what can go wrong in a run ends with an exit code. Five things do not: the copy of the
default settings cannot be written, the references of a setting cannot be followed, a file has a
name that no file can have, a statement has an integer that is too long, or the store itself ends
with a fault, unless it is one of decoding text. Each of them counts only if nothing before it ends
the run.

## Main definitions

* `Program.Escapes` — the courses of commands that end without an exit code.
-/
namespace Signet

namespace Defaults

/-- The name that the copy of the default settings gets. -/
def copyName (files : FileTree) (output : Text) : Text :=
  let copy := FileTree.join output fileName
  if files.isDirectory copy then FileTree.join copy fileName else copy

/-- A copy that the system does not refuse fails if its file cannot be written. -/
theorem decides_create (files : FileTree) (refusal : Option CopyRefusal) (output directory : Text) :
    (create files refusal output directory).Decides
      (if refusal = none then failureOf (files.write (copyName files output) content)
        else none) := by
  cases refusal with
  | some refusal =>
    cases refusal <;> exact (Attempt.decides_log _ _).bind fun _ => Attempt.decides_pure _
  | none =>
    have hwrite : (create files none output directory).Decides
        ((failureOf (files.write (copyName files output) content)).or none) :=
      (Attempt.decides_ofExcept _).bind fun _ =>
        (Attempt.decides_log _ _).bind fun _ => Attempt.decides_pure _
    simpa using hwrite

end Defaults

namespace Program

open Attempt (Yields)

/-- The courses of a command that end without an exit code. -/
inductive Escapes (w : Surroundings) (s : Settings) : Command → List Exchange → Prop where
  /-- The copy of the default settings cannot be written. -/
  | output {directory : Option Text} (hrefusal : w.refusal = none)
    (h : ¬ w.files.Writable
      (Defaults.copyName w.files (directory.getD w.files.currentName))) :
    Escapes w s (.dumpDefaults directory) []
  /-- The first setting that cannot be used has references that cannot be followed. -/
  | setting {command : Command} {a : StoringArguments} {inputs : List Input}
    {request : Except CommandFailure StoreRequest} {setting : StorageConfig.Setting}
    {e : InterpolationError} (hstores : Stores w command a inputs request)
    (hreached : Reached (StorageConfig.Setting.failure? s) (StorageConfig.settingsOf s) setting)
    (h : s.get? setting.name setting.option = .error e) : Escapes w s command []
  /-- The first input that is not valid has the name of no file, or an integer that is too long. -/
  | input {command : Command} {a : StoringArguments} {inputs : List Input}
    {request : Except CommandFailure StoreRequest} {o : StoreOptions} {input : Input}
    (hstores : Stores w command a inputs request) (hoptions : Configures w s a o)
    (hreached : Reached (Input.failure? w) inputs input) (h : input.Spoils w) :
    Escapes w s command []
  /-- The store ends with a fault, and not for bytes that a charset does not decode. -/
  | exchange {command : Command} {a : StoringArguments} {inputs : List Input} {q : StoreRequest}
    {o : StoreOptions} {xs : List Exchange} {f : Fault}
    (hstores : Stores w command a inputs (.ok q)) (hoptions : Configures w s a o)
    (h : (∃ x, xs.getLast? = some x ∧ Faulty x f) ∨
      ∃ e, f = .unwritable e ∧ Storing.Unwritable o.remote o q xs e)
    (hcode : ∀ reason, f ≠ .text (.undecodable reason)) : Escapes w s command xs

variable {w : Surroundings} {s : Settings} {command : Command} {xs : List Exchange}
  {r : Except CommandFailure Ending}

theorem decides_dump (w : Surroundings) (directory : Option Text) :
    (dump w directory).Decides
      ((if w.refusal = none then failureOf (w.files.write
        (Defaults.copyName w.files (directory.getD w.files.currentName)) Defaults.content)
        else none).map .output) := by
  have hdump := ((Defaults.decides_create w.files w.refusal
    (directory.getD w.files.currentName) w.files.currentName).mapError
      CommandFailure.output).bind fun copied => Attempt.decides_pure
        ({ code := if copied.1 then .success else .cannotCreate, files := copied.2 } : Ending)
  rwa [Option.or_none] at hdump

theorem dump_escapes_iff {directory : Option Text} (h : Yields (dump w directory) xs r) :
    (∃ e, r = .error e) ↔ Escapes w s (.dumpDefaults directory) xs := by
  obtain rfl := (decides_dump w directory).nil h
  rw [(decides_dump w directory).fails_iff h]
  constructor
  · rintro ⟨_, hmap⟩
    obtain ⟨e, he, rfl⟩ := Option.map_eq_some_iff.1 hmap
    split_ifs at he with hrefusal
    exact .output hrefusal (FileTree.write_fails_iff.1 ⟨e, failureOf_eq_some_iff.1 he⟩)
  · intro hescapes
    cases hescapes with
    | output hrefusal hwritable =>
      obtain ⟨e, he⟩ := FileTree.write_fails_iff.2 hwritable
      exact ⟨.output e, by rw [if_pos hrefusal, he]; rfl⟩
    | setting hstores => cases hstores
    | input hstores => cases hstores
    | exchange hstores => cases hstores

/-- The failures of a storing command that have no exit code. -/
theorem escapes_of_storeSteps {a : StoringArguments} {inputs : List Input}
    {request : Except CommandFailure StoreRequest} {e : CommandFailure}
    (hstores : Stores w command a inputs request) (h : StoreSteps w s a request xs (.error e))
    (hnone : e.ending? = none) : Escapes w s command xs := by
  generalize hr : (Except.error e : Except CommandFailure Ending) = r at h
  cases h with
  | @unconfigured f hload =>
    cases hr
    cases f with
    | config f => cases hnone
    | interpolation f =>
      obtain ⟨-, hfirst⟩ := (StorageConfig.decides_load s).yields_error_iff.1 hload
      obtain ⟨setting, hreached, hfails⟩ := findSome?_eq_some_iff_reached.1 hfirst
      exact .setting hstores hreached
        (StorageConfig.Setting.failure?_eq_interpolation_iff.1 hfails)
  | @unaddressed config e hload hoptions =>
    cases hr
    have hfails := failureOf_eq_some_iff.2 hoptions
    rw [StoringArguments.storeOptions, failureOf_mapError] at hfails
    obtain ⟨_, -, rfl⟩ := Option.map_eq_some_iff.1 hfails
    cases hnone
  | @unread o e hoptions hrequest =>
    cases hr
    have hfirst := hstores.failureOf_request
    rw [hrequest, failureOf_error] at hfirst
    obtain ⟨input, hreached, hfails⟩ := findSome?_eq_some_iff_reached.1 hfirst.symm
    exact .input hstores hoptions hreached (Input.spoils_iff.2 ⟨e, hfails, hnone⟩)
  | @stored o q xs r hoptions hrequest hstore =>
    subst hrequest
    rcases r with (e' | f) | _
    · cases hr
      cases e' <;> cases hnone
    · cases hr
      exact .exchange hstores hoptions ((Storing.yields_fault_iff
        (Artifact.hex?_ne_none hstores.parse_artifact) hstore).1 rfl) (ending?_fault.1 hnone)
    · cases hr

theorem settle_escapes_iff {a : StoringArguments} {inputs : List Input}
    {request : Except CommandFailure StoreRequest} (hstores : Stores w command a inputs request)
    (h : Yields (settle w (a.store w s request)) xs r) :
    (∃ e, r = .error e) ↔ Escapes w s command xs := by
  obtain ⟨r', hstore, rfl⟩ := settleCourse h
  rw [settled_fails_iff]
  constructor
  · rintro ⟨e, rfl, hnone⟩
    exact escapes_of_storeSteps hstores (storeSteps hstore) hnone
  · -- What escapes fixes the course of the command, and so its failure.
    have hunique {e : CommandFailure} (hsteps : StoreSteps w s a request xs (.error e))
        (hnone : e.ending? = none) : ∃ e, r' = .error e ∧ e.ending? = none :=
      ⟨e, Session.yields_unique hstore hsteps.yields, hnone⟩
    intro hescapes
    cases hescapes with
    | output => cases hstores
    | @setting _ _ _ _ setting e hstores' hreached hget =>
      obtain ⟨rfl, rfl, rfl⟩ := hstores.unique hstores'
      have hfails := StorageConfig.Setting.failure?_eq_interpolation_iff.2 hget
      exact hunique (.unconfigured ((StorageConfig.decides_load s).yields_error_iff.2
        ⟨rfl, findSome?_eq_some_iff_reached.2 ⟨setting, hreached, hfails⟩⟩)) rfl
    | @input _ _ _ _ o input hstores' hoptions hreached hspoils =>
      obtain ⟨rfl, rfl, rfl⟩ := hstores.unique hstores'
      obtain ⟨e, hfails, hnone⟩ := Input.spoils_iff.1 hspoils
      have hfirst := findSome?_eq_some_iff_reached.2 ⟨input, hreached, hfails⟩
      rw [← hstores.failureOf_request] at hfirst
      exact hunique (.unread hoptions (failureOf_eq_some_iff.1 hfirst)) hnone
    | @exchange _ _ _ q o _ f hstores' hoptions hfault hcode =>
      obtain ⟨rfl, rfl, rfl⟩ := hstores.unique hstores'
      obtain ⟨r'', hyields, rfl⟩ := stored_of_configures hoptions hstore
      obtain rfl := (Storing.yields_fault_iff
        (Artifact.hex?_ne_none hstores.parse_artifact) hyields).2 hfault
      exact ⟨.fault f, rfl, ending?_fault.2 hcode⟩

/-- A command ends without an exit code exactly in the courses that escape. -/
theorem perform_escapes_iff (h : Yields (perform w s command) xs r) :
    (∃ e, r = .error e) ↔ Escapes w s command xs := by
  cases command with
  | storeAttestation a statement => exact settle_escapes_iff (.attestation a statement) h
  | storeSignature a payload => exact settle_escapes_iff (.signature a payload) h
  | dumpDefaults directory => exact dump_escapes_iff h

/-- What is logged about settings that cannot be loaded. -/
theorem decides_forM_log (messages : List Text) :
    (messages.forM (Attempt.log .error) : Attempt CommandFailure Unit).Decides none := by
  induction messages with
  | nil => exact Attempt.decides_pure _
  | cons message messages ih => exact (Attempt.decides_log _ _).bind fun _ => ih

/-- A command that is asked for is performed under the settings that are loaded. -/
theorem run_eq_perform {arguments : List Text} {i : Invocation}
    (hread : Invocation.read arguments = .ok i) (hcommand : i.command = some command)
    (hload : ({} : Settings).load w.files i.settings = .ok s) :
    run w arguments = perform w s command := by
  rw [run, hread]
  dsimp only
  rw [hcommand]
  dsimp only
  rw [hload]

theorem run_escapes_iff {arguments : List Text} (h : Yields (run w arguments) xs r) :
    (∃ e, r = .error e) ↔
      ∃ i command s, Invocation.read arguments = .ok i ∧ i.command = some command ∧
        ({} : Settings).load w.files i.settings = .ok s ∧ Escapes w s command xs := by
  rw [run] at h
  cases hread : Invocation.read arguments with
  | error i =>
    rw [hread] at h
    obtain ⟨-, rfl⟩ := h
    simp
  | ok i =>
    rw [hread] at h
    dsimp only at h
    cases hcommand : i.command with
    | none =>
      rw [hcommand] at h
      obtain ⟨-, rfl⟩ := h
      simp [hcommand]
    | some command =>
      rw [hcommand] at h
      dsimp only at h
      cases hload : ({} : Settings).load w.files i.settings with
      | error e =>
        rw [hload] at h
        have hdecides := (decides_forM_log e.messages).bind fun _ =>
          (Attempt.decides_log .error
            "Exiting because the defaults configuration could not be loaded.").bind fun _ =>
              Attempt.decides_pure ({ code := .noInput, files := w.files } : Ending)
        rw [hdecides.fails_iff h]
        simp [hcommand, hload]
      | ok s =>
        rw [hload] at h
        rw [perform_escapes_iff h]
        simp [hcommand, hload]

abbrev runArguments {σ : Type} (server : Session.Server σ) (w : Surroundings)
    (arguments : List Text) (state : σ) : Session.Run σ (Except CommandFailure Ending) :=
  Session.run server (run w arguments).run state

/-- Whatever the server does, a run ends without an exit code exactly if its arguments ask for a
command, the settings are loaded, and the course of the command escapes. -/
theorem ends_without_code_iff {σ : Type} (server : Session.Server σ) (state : σ)
    (w : Surroundings) (arguments : List Text) :
    let run := runArguments server w arguments state
    (∃ e, run.result = .error e) ↔
      ∃ i command s, Invocation.read arguments = .ok i ∧ i.command = some command ∧
        ({} : Settings).load w.files i.settings = .ok s ∧ Escapes w s command run.exchanges :=
  run_escapes_iff (Attempt.yields_run server (Program.run w arguments) state)

/-! ## A directory that is missing -/

/-- Whatever the server does, a run ends without an exit code if it is asked for a copy of the
default settings that cannot be written. -/
theorem unwritable_copy_escapes {σ : Type} (server : Session.Server σ) (state : σ)
    {arguments : List Text} {i : Invocation} {directory : Option Text}
    (hread : Invocation.read arguments = .ok i) (hcommand : i.command = some (.dumpDefaults directory))
    (hload : ({} : Settings).load w.files i.settings = .ok s) (hrefusal : w.refusal = none)
    (hwritable : ¬ w.files.Writable
      (Defaults.copyName w.files (directory.getD w.files.currentName))) :
    ∃ e, (runArguments server w arguments state).result = .error e := by
  have hyields : Yields (run w arguments) (runArguments server w arguments state).exchanges
      (runArguments server w arguments state).result := Attempt.yields_run server _ state
  generalize (runArguments server w arguments state).exchanges = xs at hyields
  generalize (runArguments server w arguments state).result = r at hyields ⊢
  rw [run_eq_perform hread hcommand hload] at hyields
  obtain rfl := (decides_dump w directory).nil hyields
  exact (perform_escapes_iff hyields).2 (.output hrefusal hwritable)

/-- Not every run ends with an exit code. -/
theorem missing_directory_escapes :
    ¬ ∀ (state : ScriptedRegistry) (w : Surroundings) (arguments : List Text),
      ∃ ending, (runArguments ScriptedRegistry.serve w arguments state).result = .ok ending := by
  intro h
  obtain ⟨ending, hending⟩ := h {} {} ["dump-defaults", "-o", "missing"]
  have hread : Invocation.read ["dump-defaults", "-o", "missing"] =
      .ok { command := some (.dumpDefaults (some "missing")) } := by
    decide +kernel
  have hload : ({} : Settings).load {} [] = .ok Defaults.settings :=
    Settings.load_eq_ok_iff.2 ⟨.inl rfl, .inr ⟨⟨⟨.missing, []⟩, rfl⟩, rfl⟩⟩
  have hwrite : ({} : FileTree).write (Defaults.copyName {} "missing") [] =
      .error ⟨.missing, "missing/defaults.ini"⟩ := by
    decide +kernel
  obtain ⟨e, he⟩ := unwritable_copy_escapes (w := {}) ScriptedRegistry.serve {} hread rfl hload rfl
    (FileTree.write_fails_iff.1 ⟨_, hwrite⟩)
  rw [hending] at he
  cases he

end Program
end Signet
