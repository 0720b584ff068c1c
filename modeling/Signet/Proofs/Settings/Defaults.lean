import Mathlib
import Signet.Settings.Defaults

/-!
# The default settings as they are read

Every load begins with the file that the program comes with. That file can be read, so a load
fails only because of the file of the user, and it leaves the default settings as they are if
there is none.

## Main definitions

* `Defaults.settings` — the settings of the file that the program comes with.
-/
namespace Signet

/-- The settings of the file that the program comes with. -/
def Defaults.settings : Settings :=
  { sections :=
      [("requests", [("timeout", "30")]),
       ("storage.oci",
        [("format", ""), ("repository", ""), ("insecure", "False"), ("verify_tls", "True")])] }

namespace Settings

theorem readFile_defaults :
    ({} : Settings).readFile Defaults.fileName Defaults.content = .ok Defaults.settings := by
  decide +kernel

/-- A load reads the file of the user on top of the default settings. -/
theorem load_eq_ok_iff {files : FileTree} {name : Text} {s : Settings} :
    ({} : Settings).load files name = .ok s ↔
      (name = [] ∨ files.isFile name = true) ∧
        ((∃ bytes, files.read name = .ok bytes ∧ Defaults.settings.readFile name bytes = .ok s) ∨
          (∃ e, files.read name = .error e) ∧ s = Defaults.settings) := by
  rw [load, readFile_defaults]
  split_ifs with hmissing
  · simp only [false_iff, not_and]
    rintro (hname | hfile)
    · exact absurd hname hmissing.1
    · simp [hfile] at hmissing
  · have hthere : name = [] ∨ files.isFile name = true := by
      by_contra hnone
      simp_all
    simp only [hthere, true_and, Except.mapError, Bind.bind, Except.bind]
    cases files.read name with
    | error e => simp [pure, Except.pure, eq_comm]
    | ok bytes =>
      dsimp only
      cases hread : Defaults.settings.readFile name bytes <;> simp [hread]

end Settings
end Signet
