import Mathlib
import Signet.Proofs.Exchange.Checks
import Signet.Settings.Storage

/-!
# Settings of a store

The storage configuration is made of settings that are looked up one after the other. A setting
cannot be used if its references cannot be followed, or if its value is not one that it may have;
the first such setting says why no configuration is loaded.

## Main definitions

* `StorageConfig.Setting` — a setting of the store, and what is wrong with values of it.
* `StorageConfig.settingsOf` — the settings that are looked up, in their order.
-/
namespace Signet
namespace StorageConfig

open Attempt (Decides)

/-- A setting of the store: its section, its option, and what is wrong with a value of it. -/
structure Setting where
  name : Text
  option : Text
  invalid? : Text → Option ConfigError

namespace Setting

/-- Why the setting cannot be used. -/
def failure? (s : Settings) (setting : Setting) : Option ConfigFailure :=
  match s.get? setting.name setting.option with
  | .error e => some (.interpolation e)
  | .ok none => none
  | .ok (some t) => (setting.invalid? t).map .config

/-- Only references that cannot be followed are no fault of the value. -/
theorem failure?_eq_interpolation_iff {s : Settings} {setting : Setting} {e : InterpolationError} :
    setting.failure? s = some (.interpolation e) ↔
      s.get? setting.name setting.option = .error e := by
  rw [failure?]
  rcases s.get? setting.name setting.option with e' | _ | t <;> simp

/-- The timeout of requests, which has to be an integer. -/
def timeout : Setting :=
  ⟨requestsName, "timeout", fun t => (failureOf (Decimal.readInt t)).map .invalidTimeout⟩

/-- An option of the store with any value. -/
def text (option : Text) : Setting := ⟨sectionName, option, fun _ => none⟩

/-- An option of the store with a truth value. -/
def boolean (option : Text) : Setting :=
  ⟨sectionName, option, fun t =>
    if (boolean? t.lower).isSome then none else some (.invalidBoolean t)⟩

end Setting

/-- The settings that are looked up, in their order. Without a section of the store there is only
the timeout. -/
def settingsOf (s : Settings) : List Setting :=
  .timeout ::
    if s.hasSection sectionName then
      [.text "format", .boolean "referrers_api", .boolean "insecure", .boolean "verify_tls",
        .text "repository"]
    else []

variable (s : Settings)

/-- Work with the value of a setting fails as the setting says, if it fails for values only. -/
theorem failureOf_value_bind {α : Type} (setting : Setting)
    {f : Option Text → Except ConfigFailure α} (hnone : failureOf (f none) = none)
    (hsome : ∀ t, failureOf (f (some t)) = (setting.invalid? t).map .config) :
    failureOf (value s setting.name setting.option >>= f) = setting.failure? s := by
  rw [value, Setting.failure?]
  cases s.get? setting.name setting.option with
  | error e => rfl
  | ok t? =>
    cases t? with
    | none => exact hnone
    | some t => exact hsome t

theorem failureOf_timeoutOf : failureOf (timeoutOf s) = Setting.timeout.failure? s := by
  refine failureOf_value_bind s .timeout rfl fun t => ?_
  rw [failureOf_mapError, Setting.timeout, Option.map_map]
  rfl

theorem failureOf_text (option : Text) :
    failureOf (text s option) = (Setting.text option).failure? s := by
  have hbind : text s option = value s sectionName option >>= fun t => .ok (t.getD []).strip := by
    rw [text]
    cases value s sectionName option <;> rfl
  rw [hbind]
  exact failureOf_value_bind s (.text option) rfl fun _ => rfl

theorem failureOf_boolean (option : Text) :
    failureOf (boolean s option) = (Setting.boolean option).failure? s := by
  refine failureOf_value_bind s (.boolean option) rfl fun t => ?_
  simp only [Setting.boolean]
  cases boolean? t.lower <;> rfl

theorem decides_chooseFormat (format : Text) (switch : Option Bool) :
    Decides (chooseFormat format switch) none := by
  unfold chooseFormat
  split
  · exact Attempt.decides_pure _
  · split <;> exact (Attempt.decides_log _ _).bind fun _ => Attempt.decides_pure _

/-- Loading the configuration sends nothing, and fails as the first setting says that cannot be
used. -/
theorem decides_load : Decides (load s) ((settingsOf s).findSome? (Setting.failure? s)) := by
  rw [settingsOf, findSome?_cons_eq_or, ← failureOf_timeoutOf]
  refine (Attempt.decides_ofExcept _).bind fun timeout => ?_
  by_cases hsection : s.hasSection sectionName
  · simp only [hsection, Bool.not_true, Bool.false_eq_true, if_false, if_true,
      findSome?_cons_eq_or, List.findSome?_nil, ← failureOf_text, ← failureOf_boolean]
    refine (Attempt.decides_ofExcept _).bind fun format => ?_
    refine (Attempt.decides_ofExcept _).bind fun switch => ?_
    refine (Attempt.decides_ofExcept _).bind fun insecure => ?_
    refine (Attempt.decides_ofExcept _).bind fun verifyTls => ?_
    refine (decides_chooseFormat format switch).bind fun format => ?_
    exact (Attempt.decides_ofExcept _).bind fun repository => Attempt.decides_pure _
  · simp only [hsection, Bool.not_false, if_true]
    exact Attempt.decides_pure _

end StorageConfig
end Signet
