import Mathlib
import Signet.Proofs.Program.ExitCode
import Signet.Proofs.Program.Input
import Signet.Proofs.Settings.Loaded

/-!
# Who chooses the format

The format of a store is chosen by the arguments, or else by the settings, or else by the old
switch. Nothing that is weaker than the choice has any effect on what is sent or on how the
program ends.

## Main definitions

* `StoringArguments.chosenFormat` — the identifier that arguments and settings choose.
* `StoringArguments.storeIn` — a storing command whose format and configuration are decided.
-/
namespace Signet

/-- An identifier stands for the format that it names, and any other text for the oldest one. -/
theorem Format.routed_eq_iff {t : Text} {format : Format} :
    Format.routed t = format ↔
      t = format.identifier ∨ format = .legacy ∧ ∀ other : Format, t ≠ other.identifier := by
  constructor
  · rintro rfl
    rw [Format.routed]
    cases hnamed : Format.ofIdentifier? t with
    | none =>
      refine .inr ⟨rfl, ?_⟩
      rintro other rfl
      rw [Format.ofIdentifier?_identifier] at hnamed
      cases hnamed
    | some named =>
      have hfound := List.find?_some hnamed
      exact .inl (by simpa [eq_comm] using hfound)
  · rintro (rfl | ⟨rfl, hunnamed⟩)
    · exact Format.routed_identifier _
    · have hnone : Format.ofIdentifier? t = none := by
        rw [Format.ofIdentifier?, List.find?_eq_none]
        intro other _
        simpa [eq_comm] using hunnamed other
      rw [Format.routed, hnone]
      rfl

theorem Text.nonempty?_of_ne_nil {t : Text} (h : t ≠ []) : Text.nonempty? (some t) = some t := by
  simp [Text.nonempty?, Option.filter, h]

namespace StoringArguments

open Attempt (Same)
open StorageConfig (Readable DifferInFormat ofSettings firstGiven formatSources configuredFormat)

/-- The identifier of a format that arguments and settings choose. The argument is taken as it
is given. -/
def chosenFormat (a : StoringArguments) (s : Settings) : Text :=
  firstGiven (a.format :: formatSources s)

/-- Stores in a format, once the options of the store and then what is to be stored are found. -/
def storeIn (a : StoringArguments) (w : Surroundings) (format : Format) (config : StorageConfig)
    (request : Except CommandFailure StoreRequest) : Attempt CommandFailure Ending := do
  let options ← Attempt.ofExcept (a.storeOptions w config)
  let request ← Attempt.ofExcept request
  (Storing.storeIn format options.remote options request).mapError CommandFailure.ofStore
  return { code := .success, files := w.files }

variable {w : Surroundings} {s s' : Settings} {a : StoringArguments} {config : StorageConfig}
  {o : StoreOptions} {request : Except CommandFailure StoreRequest}

theorem format_override : (a.override (ofSettings s)).format = a.chosenFormat s := by
  rw [chosenFormat, firstGiven, List.findSome?_cons]
  cases h : Text.nonempty? a.format <;> simp [override, h, ofSettings, firstGiven]

theorem format_storeOptions (h : a.storeOptions w config = .ok o) :
    o.format = (a.override config).format := by
  rw [storeOptions, mapError_eq_ok_iff, StoreOptions.ofConfig] at h
  split at h
  all_goals
    obtain ⟨repository, -, ho⟩ := bind_eq_ok_iff.1 h
    cases ho
    rfl

/-- A storing command stores in the format that is chosen. -/
theorem same_store (h : Readable s) :
    Same (a.store w s request)
      (a.storeIn w (.routed (a.chosenFormat s)) (ofSettings s) request) := by
  have hloaded : (pure (ofSettings s) : Attempt ConfigFailure StorageConfig).mapError
      CommandFailure.ofConfig = pure (ofSettings s) := rfl
  refine (((StorageConfig.same_load h).mapError _).bind fun config => .refl _).trans ?_
  rw [hloaded, pure_bind]
  refine Attempt.same_ofExcept_bind fun o ho => ?_
  refine (Same.refl _).bind fun q => ?_
  rw [← format_override, ← format_storeOptions ho]
  exact (Storing.same_storeIn.mapError _).bind fun _ => .refl _

/-- Settings that choose the same format make the same options. -/
theorem override_eq (h : DifferInFormat s s') (hformat : a.chosenFormat s' = a.chosenFormat s) :
    a.override (ofSettings s') = a.override (ofSettings s) := by
  rw [← format_override, ← format_override] at hformat
  rw [h.ofSettings_eq] at hformat ⊢
  simp only [override] at hformat ⊢
  rw [hformat]

/-- The argument decides if it is given, and the setting if it is given and the argument is the
same. -/
theorem chosenFormat_eq
    (h : (∃ t, a.format = some t ∧ t ≠ []) ∨
      configuredFormat s ≠ [] ∧ configuredFormat s' = configuredFormat s) :
    a.chosenFormat s' = a.chosenFormat s := by
  simp only [chosenFormat, firstGiven, formatSources, List.findSome?_cons]
  rcases h with ⟨t, ht, hne⟩ | ⟨hne, hsame⟩
  · rw [ht, Text.nonempty?_of_ne_nil hne]
  · rw [hsame, Text.nonempty?_of_ne_nil hne]

end StoringArguments

namespace Program

open Attempt (Same)
open StorageConfig (Readable DifferInFormat ofSettings configuredFormat runLoad)

variable {w : Surroundings} {s s' : Settings} {command : Command} {a : StoringArguments}
  {inputs : List Input} {request : Except CommandFailure StoreRequest}

theorem perform_eq (h : Stores w command a inputs request) :
    perform w s command = settle w (a.store w s request) := by
  cases h <;> rfl

/-- A storing command of settings that can be used stores in the format that is chosen. -/
theorem same_perform (hreadable : Readable s) (hstores : Stores w command a inputs request) :
    Same (perform w s command)
      (settle w (a.storeIn w (.routed (a.chosenFormat s)) (ofSettings s) request)) := by
  rw [perform_eq hstores]
  exact (StoringArguments.same_store hreadable).tryCatch _

/-- Settings that choose the same format and differ in nothing else make a command do the same. -/
theorem same_perform_of_chosenFormat_eq (hreadable : Readable s) (hreadable' : Readable s')
    (hdiffer : DifferInFormat s s') (hformat : a.chosenFormat s' = a.chosenFormat s)
    (hstores : Stores w command a inputs request) :
    Same (perform w s command) (perform w s' command) := by
  have hstoreIn : a.storeIn w (.routed (a.chosenFormat s')) (ofSettings s') request =
      a.storeIn w (.routed (a.chosenFormat s)) (ofSettings s) request := by
    simp only [StoringArguments.storeIn, StoringArguments.storeOptions,
      StoringArguments.override_eq hdiffer hformat, hformat]
  have hsame' := same_perform hreadable' hstores
  rw [hstoreIn] at hsame'
  exact (same_perform hreadable hstores).trans fun xs r => (hsame' xs r).symm

/-- Whatever the server does, a storing command of settings that can be used runs as a store in
the format that is chosen. Settings that differ only in the format and the old switch make no
difference if the argument is given, and neither does the switch if a format is configured. -/
theorem format_precedence {σ : Type} (server : Session.Server σ) (state : σ)
    (hreadable : Readable s) (hstores : Stores w command a inputs request) :
    let run (s : Settings) := runCommand server w s command state
    (∃ config, (runLoad server s state).result = .ok config ∧
      (run s).Agrees (Session.run server
        (settle w (a.storeIn w (.routed (a.chosenFormat s)) config request)).run state)) ∧
    (∀ t format, Format.routed t = format ↔
      t = format.identifier ∨ format = .legacy ∧ ∀ other : Format, t ≠ other.identifier) ∧
    ∀ s', Readable s' → DifferInFormat s s' →
      ((∃ t, a.format = some t ∧ t ≠ []) ∨
        configuredFormat s ≠ [] ∧ configuredFormat s' = configuredFormat s) →
      (run s).Agrees (run s') := by
  intro run
  refine ⟨⟨ofSettings s, ?_, ?_⟩, fun t format => Format.routed_eq_iff, ?_⟩
  · exact ((StorageConfig.same_load hreadable).agrees server state).result
  · exact (same_perform hreadable hstores).agrees server state
  · intro s' hreadable' hdiffer hgiven
    have hformat := StoringArguments.chosenFormat_eq hgiven
    exact (same_perform_of_chosenFormat_eq hreadable hreadable' hdiffer hformat
      hstores).agrees server state

/-- Settings with a format, and with an old switch that asks for another one. -/
def bundleSettings (switch : Bool) : Settings :=
  { sections := [("storage.oci",
      ("format", " protobuf-bundle") :: if switch then [("referrers_api", "no")] else [])] }

/-- A signature is stored alike, whether or not there is a switch besides the format. -/
theorem format_precedence_switch :
    let w : Surroundings := { files := { files := [([("s" : Text)], [0])] } }
    let a : StoringArguments := { image := Storing.sampleArtifact.toText, signature := "s" }
    let run (switch : Bool) :=
      runCommand ScriptedRegistry.serve w (bundleSettings switch) (.storeSignature a none) {}
    Readable (bundleSettings false) ∧ Readable (bundleSettings true) ∧
      a.chosenFormat (bundleSettings false) = "protobuf-bundle" ∧
      DifferInFormat (bundleSettings false) (bundleSettings true) ∧
      (run false).Agrees (run true) := by
  intro w a run
  have hreadable : Readable (bundleSettings false) := by decide +kernel
  have hreadable' : Readable (bundleSettings true) := by decide +kernel
  have hdiffer : DifferInFormat (bundleSettings false) (bundleSettings true) := by decide +kernel
  refine ⟨hreadable, hreadable', by decide +kernel, hdiffer, ?_⟩
  exact (format_precedence ScriptedRegistry.serve {} hreadable (.signature a none)).2.2 _
    hreadable' hdiffer (.inr (by decide +kernel))

end Program
end Signet
