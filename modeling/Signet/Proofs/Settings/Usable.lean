import Mathlib
import Signet.Proofs.Settings.Defaults
import Signet.Proofs.Settings.Interpolation
import Signet.Proofs.Settings.Storage

/-!
# Settings that can be used

A setting of the store can be used if it is not given, or if its value stands for a text that it
may have. A configuration that is not loaded has a first setting that cannot be used: either its
value stands for another text, which is told as an invalid configuration, or its references cannot
be followed, which is told as a failure of its own.

## Main definitions

* `Settings.written?` — the value of an option of a section, as it was written.
* `StorageConfig.Setting.Usable`, `StorageConfig.Setting.Unfollowable` — a setting that can be
  used, and one whose value stands for no text.
-/
namespace Signet

open Interpolation (Expands maxDepth)

namespace Settings

variable {s : Settings} {name option t : Text}

/-- The value of an option of a section, as it was written. -/
def written? (s : Settings) (name option : Text) : Option Text :=
  (Assoc.lookup name s.sections).bind fun options => s.raw? options option

theorem get?_of_not_written (h : s.written? name option = none) : s.get? name option = .ok none := by
  rw [get?]
  rw [written?] at h
  cases hsection : Assoc.lookup name s.sections with
  | none => rfl
  | some options =>
    rw [hsection, Option.bind_some] at h
    simp only [h]

theorem get?_of_written {v : Text} (h : s.written? name option = some v) :
    s.get? name option =
      (Interpolation.expand (s.written? name) option name v maxDepth v).map some := by
  obtain ⟨options, hsection, hraw⟩ := Option.bind_eq_some_iff.1 h
  have hvalues : s.written? name = s.raw? options := by
    funext option'
    rw [written?, hsection, Option.bind_some]
  rw [get?, hsection, hvalues]
  simp only [hraw]

/-- An option has no value if none was written. -/
theorem get?_eq_ok_none_iff : s.get? name option = .ok none ↔ s.written? name option = none := by
  cases hwritten : s.written? name option with
  | none => simp [get?_of_not_written hwritten]
  | some v =>
    rw [get?_of_written hwritten]
    cases Interpolation.expand (s.written? name) option name v maxDepth v <;> simp [Except.map]

/-- The value of an option is the text that its written value stands for. -/
theorem get?_eq_ok_some_iff : s.get? name option = .ok (some t) ↔
    ∃ v, s.written? name option = some v ∧ Expands (s.written? name) maxDepth v t := by
  cases hwritten : s.written? name option with
  | none => simp [get?_of_not_written hwritten]
  | some v =>
    rw [get?_of_written hwritten]
    simp only [Option.some.injEq, exists_eq_left']
    have hexpands : Expands (s.written? name) maxDepth v t ↔
        Interpolation.expand (s.written? name) option name v maxDepth v = .ok t :=
      Interpolation.expand_eq_ok_iff.symm
    rw [hexpands]
    cases Interpolation.expand (s.written? name) option name v maxDepth v <;> simp [Except.map]

/-- References cannot be followed in a value that stands for no text. -/
theorem get?_fails_iff : (∃ e, s.get? name option = .error e) ↔
    ∃ v, s.written? name option = some v ∧ ∀ t, ¬ Expands (s.written? name) maxDepth v t := by
  cases hget : s.get? name option with
  | ok t? =>
    refine iff_of_false (by simp) ?_
    rintro ⟨v, hwritten, hv⟩
    cases t? with
    | none =>
      rw [get?_eq_ok_none_iff.1 hget] at hwritten
      cases hwritten
    | some t =>
      obtain ⟨v', hwritten', hexpands⟩ := get?_eq_ok_some_iff.1 hget
      obtain rfl : v = v' := Option.some.inj (hwritten.symm.trans hwritten')
      exact hv t hexpands
  | error e =>
    refine iff_of_true ⟨e, rfl⟩ ?_
    cases hwritten : s.written? name option with
    | none =>
      rw [get?_of_not_written hwritten] at hget
      cases hget
    | some v =>
      refine ⟨v, rfl, fun t hexpands => ?_⟩
      rw [get?_eq_ok_some_iff.2 ⟨v, hwritten, hexpands⟩] at hget
      cases hget

end Settings

namespace StorageConfig

namespace Setting

/-- The setting is not given, or its value stands for a text that it may have. -/
def Usable (s : Settings) (setting : Setting) : Prop :=
  ∀ v, s.written? setting.name setting.option = some v →
    ∃ t, Expands (s.written? setting.name) maxDepth v t ∧ setting.invalid? t = none

/-- The value of the setting stands for no text. -/
def Unfollowable (s : Settings) (setting : Setting) : Prop :=
  ∃ v, s.written? setting.name setting.option = some v ∧
    ∀ t, ¬ Expands (s.written? setting.name) maxDepth v t

variable {s : Settings} {setting : Setting}

theorem failure?_eq_none_iff : setting.failure? s = none ↔ setting.Usable s := by
  rw [failure?, Usable]
  cases hget : s.get? setting.name setting.option with
  | error e =>
    obtain ⟨v, hwritten, hv⟩ := Settings.get?_fails_iff.1 ⟨e, hget⟩
    simp [hwritten, hv]
  | ok t? =>
    cases t? with
    | none => simp [Settings.get?_eq_ok_none_iff.1 hget]
    | some t =>
      obtain ⟨v, hwritten, hexpands⟩ := Settings.get?_eq_ok_some_iff.1 hget
      simp only [Option.map_eq_none_iff, hwritten, Option.some.injEq, forall_eq']
      constructor
      · intro h
        exact ⟨t, hexpands, h⟩
      · rintro ⟨t', hexpands', h⟩
        -- A value stands for one text only.
        have hsame := Settings.get?_eq_ok_some_iff.2 ⟨v, hwritten, hexpands'⟩
        rw [hget] at hsame
        cases hsame
        exact h

theorem unfollowable_iff :
    setting.Unfollowable s ↔ ∃ e, setting.failure? s = some (.interpolation e) := by
  simp only [failure?_eq_interpolation_iff]
  exact Settings.get?_fails_iff.symm

end Setting

variable {s : Settings}

/-- The setting is the first one that cannot be used, and its value stands for no text. -/
def FirstUnfollowable (s : Settings) (setting : Setting) : Prop :=
  ∃ before after, settingsOf s = before ++ setting :: after ∧
    (∀ earlier ∈ before, earlier.Usable s) ∧ setting.Unfollowable s

theorem exists_firstUnfollowable_iff : (∃ setting, FirstUnfollowable s setting) ↔
    ∃ e, (settingsOf s).findSome? (Setting.failure? s) = some (.interpolation e) := by
  simp only [findSome?_eq_some_iff_reached, FirstUnfollowable, Setting.unfollowable_iff,
    ← Setting.failure?_eq_none_iff, Reached]
  constructor
  · rintro ⟨setting, before, after, hsettings, hbefore, e, he⟩
    exact ⟨e, setting, ⟨before, after, hsettings, hbefore⟩, he⟩
  · rintro ⟨e, setting, ⟨before, after, hsettings, hbefore⟩, he⟩
    exact ⟨setting, before, after, hsettings, hbefore, e, he⟩

abbrev runLoad {σ : Type} (server : Session.Server σ) (s : Settings) (state : σ) :
    Session.Run σ (Except ConfigFailure StorageConfig) :=
  Session.run server (load s).run state

section runLoad

variable {σ : Type} (server : Session.Server σ) (state : σ)

theorem exchanges_runLoad (s : Settings) : (runLoad server s state).exchanges = [] :=
  (decides_load s).nil (Attempt.yields_run server (load s) state)

/-- The configuration is refused as the first setting says that cannot be used. -/
theorem result_runLoad_eq_error_iff {f : ConfigFailure} :
    (runLoad server s state).result = .error f ↔
      (settingsOf s).findSome? (Setting.failure? s) = some f := by
  have hyields := Attempt.yields_run server (load s) state
  constructor
  · intro hresult
    rw [hresult] at hyields
    exact ((decides_load s).yields_error_iff.1 hyields).2
  · intro hfirst
    rw [exchanges_runLoad server state s] at hyields
    exact Session.yields_unique hyields ((decides_load s).yields_error_iff.2 ⟨rfl, hfirst⟩)

/-- Loading the configuration sends nothing. It ends with a configuration or tells what is wrong
about a value, except if the first setting that cannot be used has references that cannot be
followed; the value of such a setting has a percent sign. -/
theorem refused_unless_unfollowable (s : Settings) :
    let run := runLoad server s state
    run.exchanges = [] ∧
      (((∃ config, run.result = .ok config) ∨ ∃ e, run.result = .error (.config e)) ↔
        ¬ ∃ setting, FirstUnfollowable s setting) ∧
      ∀ setting, FirstUnfollowable s setting →
        ∃ v, s.written? setting.name setting.option = some v ∧ ('%' : CodePoint) ∈ v := by
  intro run
  refine ⟨exchanges_runLoad server state s, ?_, ?_⟩
  · simp only [exists_firstUnfollowable_iff, ← result_runLoad_eq_error_iff server state]
    change _ ↔ ¬ ∃ e, run.result = .error (.interpolation e)
    cases run.result with
    | ok config => simp
    | error f => cases f <;> simp
  · rintro setting ⟨_, _, -, -, v, hwritten, hv⟩
    refine ⟨v, hwritten, ?_⟩
    by_contra hmark
    exact hv v (Interpolation.expands_of_not_mem hmark)

end runLoad

/-! ## A percent sign in the timeout -/

/-- A file of a user with a timeout that ends in a percent sign. -/
def percentFiles : FileTree :=
  { files := [([("c.ini" : Text)],
      ("[requests]\ntimeout = 30%\n" : Text).flatMap Utf8.encodeCodePoint)] }

/-- Settings that are loaded may have a value that is refused as no configuration. -/
theorem percent_escapes :
    ¬ ∀ (server : Session.Server Unit) (files : FileTree) (name : Text) (s : Settings),
      ({} : Settings).load files name = .ok s →
        (∃ config, (runLoad server s ()).result = .ok config) ∨
          ∃ e, (runLoad server s ()).result = .error (.config e) := by
  intro h
  have hfile : percentFiles.isFile "c.ini" = true := rfl
  have hbytes : percentFiles.read "c.ini" =
      .ok (("[requests]\ntimeout = 30%\n" : Text).flatMap Utf8.encodeCodePoint) := rfl
  have hloaded : (Defaults.settings.readFile "c.ini"
      (("[requests]\ntimeout = 30%\n" : Text).flatMap Utf8.encodeCodePoint)).toOption.map
        (fun s => Setting.timeout.failure? s) = some (some (.interpolation (.stray "%"))) := by
    decide +kernel
  cases hread : Defaults.settings.readFile "c.ini"
      (("[requests]\ntimeout = 30%\n" : Text).flatMap Utf8.encodeCodePoint) with
  | error e =>
    rw [hread] at hloaded
    cases hloaded
  | ok s =>
    have hload := Settings.load_eq_ok_iff.2 ⟨.inr hfile, .inl ⟨_, hbytes, hread⟩⟩
    rw [hread] at hloaded
    have htimeout : Setting.timeout.failure? s = some (.interpolation (.stray "%")) :=
      Option.some.inj hloaded
    have hfirst : (settingsOf s).findSome? (Setting.failure? s) =
        some (.interpolation (.stray "%")) := by
      rw [settingsOf, findSome?_cons_eq_or, htimeout]
      rfl
    have hresult := (result_runLoad_eq_error_iff (fun u _ => (.failure [], u)) ()).2 hfirst
    rcases h (fun u _ => (.failure [], u)) percentFiles "c.ini" s hload with
      ⟨config, hok⟩ | ⟨e, herror⟩
    · rw [hresult] at hok
      cases hok
    · rw [hresult] at herror
      cases herror

end StorageConfig
end Signet
