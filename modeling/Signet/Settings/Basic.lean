import Signet.Assoc
import Signet.Text.Lowercase
import Signet.Text.Quoted

/-!
# Settings

Named sections of options, and default options that stand behind every section. A value may
refer to other options of its section: `%(name)s` stands for the value of an option, and
two percent signs for one. References are followed when a value is asked for, ten steps
deep at most.
-/
namespace Signet

/-- Options and their values, as they were written. -/
abbrev SettingsSection := Assoc Text Text

/-- Sections of options, and default options. -/
structure Settings where
  defaults : SettingsSection := []
  sections : Assoc Text SettingsSection := []
deriving DecidableEq, Repr

/-- Why the references of a value cannot be followed. -/
inductive InterpolationError where
  /-- There is no option with the name. -/
  | missing (option name reference value : Text)
  /-- A reference is not closed. -/
  | unclosed (rest : Text)
  /-- A percent sign starts nothing. -/
  | stray (rest : Text)
  /-- References lead too deep. -/
  | tooDeep (option name value : Text)
deriving DecidableEq, Repr

def InterpolationError.message : InterpolationError → Text
  | .missing option name reference value =>
    "Bad value substitution: option " ++ option.quoted ++ " in section " ++ name.quoted ++
      " contains an interpolation key " ++ reference.quoted ++
      " which is not a valid option name. Raw value: " ++ value.quoted
  | .unclosed rest => "bad interpolation variable reference " ++ rest.quoted
  | .stray rest => "'%' must be followed by '%' or '(', found: " ++ rest.quoted
  | .tooDeep option name value =>
    "Recursion limit exceeded in value substitution: option " ++ option.quoted ++ " in section " ++
      name.quoted ++ " contains an interpolation key which cannot be substituted in 10 steps. " ++
      "Raw value: " ++ value.quoted

namespace Interpolation

inductive Piece where
  | literal (t : Text)
  | reference (name : Text)
  | unclosed (rest : Text)
  | stray (rest : Text)
deriving DecidableEq, Repr

/-- The pieces of a value, up to the first fault. -/
def pieces : Nat → Text → List Piece
  | 0, _ => []
  | fuel + 1, t =>
    match t with
    | [] => []
    | c :: rest =>
      if c ≠ '%' then
        .literal (t.takeWhile fun c => c ≠ '%') :: pieces fuel (t.dropWhile fun c => c ≠ '%')
      else
        match rest with
        | [] => [.stray t]
        | d :: more =>
          if d = '%' then .literal "%" :: pieces fuel more
          else if d = '(' then
            match Text.cut? more ')' with
            | some (name, s :: after) =>
              if name ≠ [] ∧ s = 's' then .reference name :: pieces fuel after else [.unclosed t]
            | _ => [.unclosed t]
          else [.stray t]

/-- The deepest level of references. -/
def maxDepth : Nat := 10

/-- The texts of pieces, one after the other. -/
def render (f : Piece → Except InterpolationError Text) : List Piece →
    Except InterpolationError Text
  | [] => .ok []
  | p :: rest => do
    let t ← f p
    let ts ← render f rest
    return t ++ ts

/-- The value of a text in which references are followed, with the given levels left. The
option, its section and its value are named in faults. -/
def expand (values : Text → Option Text) (option name value : Text) : Nat → Text →
    Except InterpolationError Text
  | 0, _ => .error (.tooDeep option name value)
  | depth + 1, t =>
    render
      (fun
        | .literal t => .ok t
        | .reference reference =>
          match values reference.lower with
          | none => .error (.missing option name reference.lower value)
          | some v =>
            if v.contains ('%' : Char) then expand values option name value depth v else .ok v
        | .unclosed rest => .error (.unclosed rest)
        | .stray rest => .error (.stray rest))
      (pieces t.length t)

end Interpolation

namespace Settings

/-- The name of the section of default options. -/
def defaultName : Text := "DEFAULT"

/-- The section is there. Default options are no section. -/
def hasSection (s : Settings) (name : Text) : Bool := (Assoc.lookup name s.sections).isSome

/-- The value of an option as it was written: that of the section, or else the default. -/
def raw? (s : Settings) (options : SettingsSection) (option : Text) : Option Text :=
  (Assoc.lookup option options).or (Assoc.lookup option s.defaults)

/-- The value of an option of a section, with its references followed; none if there is no
such section or option. -/
def get? (s : Settings) (name option : Text) : Except InterpolationError (Option Text) :=
  match Assoc.lookup name s.sections with
  | none => .ok none
  | some options =>
    match s.raw? options option with
    | none => .ok none
    | some value =>
      (Interpolation.expand (s.raw? options) option name value Interpolation.maxDepth value).map
        some

/-- The section removed, and whether it was there. -/
def removeSection (s : Settings) (name : Text) : Bool × Settings :=
  (s.hasSection name, { s with sections := Assoc.remove name s.sections })

end Settings
end Signet
