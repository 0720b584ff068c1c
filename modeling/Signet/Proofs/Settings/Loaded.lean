import Mathlib
import Signet.Program.Run
import Signet.Proofs.Settings.Usable

/-!
# Settings that are loaded

If all settings of the store can be used, a configuration is loaded. It follows from the values of
the settings, and only the format in it depends on the format and the old switch.

## Main definitions

* `StorageConfig.Setting.read?` — the value of a setting.
* `StorageConfig.Readable` — all settings that are looked up can be used.
* `StorageConfig.ofSettings` — the configuration that such settings make.
* `StorageConfig.DifferInFormat` — settings with the same values besides the format and the old
  switch.
-/
namespace Signet
namespace StorageConfig

open Attempt (Same)

/-- The value of a setting, with its references followed. There is none if it is not given or if
they cannot be followed. -/
def Setting.read? (s : Settings) (setting : Setting) : Option Text :=
  match s.get? setting.name setting.option with
  | .ok t => t
  | .error _ => none

/-- All settings that are looked up can be used. -/
def Readable (s : Settings) : Prop := ∀ setting ∈ settingsOf s, setting.Usable s

instance (s : Settings) : Decidable (Readable s) :=
  decidable_of_iff (∀ setting ∈ settingsOf s, setting.failure? s = none) <|
    forall₂_congr fun _ _ => Setting.failure?_eq_none_iff

/-- The truth value of an option of the store. -/
def truth? (s : Settings) (option : Text) : Option Bool :=
  ((Setting.boolean option).read? s).bind fun t => boolean? t.lower

/-- The format that is configured, without white space around it; empty if there is none. -/
def configuredFormat (s : Settings) : Text := (((Setting.text "format").read? s).getD []).strip

/-- What settings say about the format, the strongest first. -/
def formatSources (s : Settings) : List (Option Text) :=
  [some (configuredFormat s),
    (truth? s "referrers_api").map fun on => (switchFormat on).identifier]

/-- The first text that is given and not empty, or else the empty text. -/
def firstGiven (sources : List (Option Text)) : Text :=
  (sources.findSome? Text.nonempty?).getD []

/-- The configuration of settings that can be used. -/
def ofSettings (s : Settings) : StorageConfig where
  format := firstGiven (formatSources s)
  repository := Text.nonempty? (some (((Setting.text "repository").read? s).getD []).strip)
  insecure := (truth? s "insecure").getD false
  verifyTls := (truth? s "verify_tls").getD true
  timeout :=
    match Setting.timeout.read? s with
    | none => 30
    | some t => (Decimal.readInt t).toOption.getD 30

variable {s s' : Settings} {setting : Setting} {option : Text}

/-! ## Settings one by one -/

/-- A setting that can be used has references that can be followed. -/
theorem Setting.Usable.get?_eq (h : setting.Usable s) :
    s.get? setting.name setting.option = .ok (setting.read? s) := by
  rw [← Setting.failure?_eq_none_iff, Setting.failure?] at h
  rw [Setting.read?]
  cases hget : s.get? setting.name setting.option with
  | error e =>
    rw [hget] at h
    cases h
  | ok t => rfl

theorem Setting.Usable.value_eq (h : setting.Usable s) :
    value s setting.name setting.option = .ok (setting.read? s) := by
  rw [value, h.get?_eq]
  rfl

theorem Setting.Usable.invalid?_eq_none (h : setting.Usable s) {t : Text}
    (hread : setting.read? s = some t) : setting.invalid? t = none := by
  have hnone := Setting.failure?_eq_none_iff.2 h
  rw [Setting.failure?, h.get?_eq, hread] at hnone
  exact Option.map_eq_none_iff.1 hnone

theorem timeoutOf_of_usable (h : Setting.timeout.Usable s) :
    timeoutOf s = .ok (ofSettings s).timeout := by
  have hvalue : value s requestsName "timeout" = .ok (Setting.timeout.read? s) := h.value_eq
  rw [timeoutOf, hvalue, ofSettings]
  cases hread : Setting.timeout.read? s with
  | none => rfl
  | some t =>
    have hvalid := h.invalid?_eq_none hread
    rw [Setting.timeout, Option.map_eq_none_iff] at hvalid
    cases hint : Decimal.readInt t with
    | error e =>
      rw [hint] at hvalid
      cases hvalid
    | ok n => simp [hint, Bind.bind, Except.bind, Except.mapError, Except.toOption]

theorem text_of_usable (h : (Setting.text option).Usable s) :
    text s option = .ok (((Setting.text option).read? s).getD []).strip := by
  have hvalue : value s sectionName option = .ok ((Setting.text option).read? s) := h.value_eq
  rw [text, hvalue]
  rfl

theorem boolean_of_usable (h : (Setting.boolean option).Usable s) :
    boolean s option = .ok (truth? s option) := by
  have hvalue : value s sectionName option = .ok ((Setting.boolean option).read? s) := h.value_eq
  rw [boolean, hvalue, truth?]
  cases hread : (Setting.boolean option).read? s with
  | none => rfl
  | some t =>
    have hvalid := h.invalid?_eq_none hread
    rw [Setting.boolean] at hvalid
    cases htruth : boolean? t.lower with
    | none => simp [htruth] at hvalid
    | some b => simp [htruth, Bind.bind, Except.bind, Pure.pure, Except.pure]

/-- Without a section of the store, no option of it has a value. -/
theorem read?_of_not_hasSection (h : s.hasSection sectionName = false)
    (hname : setting.name = sectionName) : setting.read? s = none := by
  have hsection : Assoc.lookup sectionName s.sections = none := by
    simpa [Settings.hasSection] using h
  rw [Setting.read?, hname, Settings.get?, hsection]

/-! ## The configuration -/

/-- The switch counts where no format is given. -/
theorem same_chooseFormat (s : Settings) :
    Same (chooseFormat (configuredFormat s) (truth? s "referrers_api"))
      (pure (ofSettings s).format) := by
  rw [ofSettings, firstGiven, formatSources]
  cases hformat : configuredFormat s with
  | nil =>
    rcases truth? s "referrers_api" with _ | _ | _
    · exact .refl _
    · exact Attempt.same_log_bind _ _ _
    · exact Attempt.same_log_bind _ _ _
  | cons c t =>
    cases truth? s "referrers_api" with
    | none => exact .refl _
    | some on => exact Attempt.same_log_bind _ _ _

/-- Settings that can be used are loaded. -/
theorem same_load (h : Readable s) : Same (load s) (pure (ofSettings s)) := by
  rw [load, timeoutOf_of_usable (h _ (by simp [settingsOf]))]
  by_cases hsection : s.hasSection sectionName
  · have husable {setting : Setting} (hsetting : setting ∈ settingsOf s) : setting.Usable s :=
      h setting hsetting
    simp only [settingsOf, hsection, if_true, List.mem_cons, List.not_mem_nil, or_false] at husable
    have hformat : text s "format" = .ok (configuredFormat s) := text_of_usable (husable (by simp))
    rw [hformat, boolean_of_usable (husable (by simp)), boolean_of_usable (husable (by simp)),
      boolean_of_usable (husable (by simp)), text_of_usable (husable (by simp))]
    simp only [hsection, Bool.not_true, Bool.false_eq_true, if_false]
    refine ((same_chooseFormat s).bind fun format => .refl _).trans ?_
    rw [pure_bind, ofSettings]
    cases (((Setting.text "repository").read? s).getD []).strip <;> exact .refl _
  · have hsection : s.hasSection sectionName = false := by simpa using hsection
    have hread {setting : Setting} (hname : setting.name = sectionName) :
        setting.read? s = none := read?_of_not_hasSection hsection hname
    have htruth (option : Text) : truth? s option = none := by
      rw [truth?, hread rfl, Option.bind_none]
    have hconfig : ofSettings s = { timeout := (ofSettings s).timeout } := by
      rw [ofSettings, formatSources, configuredFormat, htruth, htruth, htruth, hread rfl, hread rfl]
      rfl
    rw [hconfig]
    simp only [hsection, Bool.not_false, if_true]
    exact .refl _

/-- Besides the format and the old switch, the settings of the store have the same values. -/
def DifferInFormat (s s' : Settings) : Prop :=
  ∀ setting ∈ [Setting.timeout, .boolean "insecure", .boolean "verify_tls", .text "repository"],
    setting.read? s = setting.read? s'

instance (s s' : Settings) : Decidable (DifferInFormat s s') :=
  inferInstanceAs (Decidable (∀ setting ∈ _, _))

/-- Such settings make configurations that differ in the format only. -/
theorem DifferInFormat.ofSettings_eq (h : DifferInFormat s s') :
    ofSettings s' = { ofSettings s with format := (ofSettings s').format } := by
  simp only [DifferInFormat, List.forall_mem_cons, List.not_mem_nil, false_imp_iff,
    implies_true, and_true] at h
  obtain ⟨htimeout, hinsecure, hverify, hrepository⟩ := h
  simp only [ofSettings, truth?, htimeout, hinsecure, hverify, hrepository]

end StorageConfig
end Signet
