import Signet.Settings.Basic
import Signet.Settings.Line
import Signet.Text.Blank

/-!
# Reading settings

A section starts with its name in brackets. An option ends at the first equality sign or
colon, and its value goes on in lines that are indented deeper. Lines that start with a
number sign or a semicolon are comments. A section or an option that is repeated in one
file, and an option outside a section, end the reading at once; lines that are no option
are collected and told at the end.
-/
namespace Signet

/-- Why a file is not read as settings. -/
inductive SettingsError where
  | repeatedSection (name source : Text) (line : Nat)
  | repeatedOption (name option source : Text) (line : Nat)
  | outsideSection (source : Text) (line : Nat) (text : Text)
  | notOptions (source : Text) (lines : List (Nat × Text))
  | undecodable (e : DecodeError)
deriving DecidableEq, Repr

/-- A line number in messages takes two places at least. -/
def lineLabel (line : Nat) : Text :=
  let number := Decimal.ofNat line
  let space : Text := if number.length < 2 then " " else ""
  "[line " ++ space ++ number ++ "]"

def SettingsError.message : SettingsError → Text
  | .repeatedSection name source line =>
    "While reading from " ++ source.quoted ++ " " ++ lineLabel line ++ ": section " ++
      name.quoted ++ " already exists"
  | .repeatedOption name option source line =>
    "While reading from " ++ source.quoted ++ " " ++ lineLabel line ++ ": option " ++
      option.quoted ++ " in section " ++ name.quoted ++ " already exists"
  | .outsideSection source line text =>
    "File contains no section headers.\nfile: " ++ source.quoted ++ ", line: " ++
      Decimal.ofNat line ++ "\n" ++ text.quoted
  | .notOptions source lines =>
    let shown : List Text := lines.map fun l => "\n\t" ++ lineLabel l.1 ++ ": " ++ l.2.quoted
    "Source contains parsing errors: " ++ source.quoted ++ shown.flatten
  | .undecodable e => e.message

namespace Settings

/-- How far a file was read: the settings so far, the section and the option that lines may
continue, the indentation of that option, what the file named before, and the lines that
are no option. -/
structure Reading where
  settings : Settings
  header? : Option Text := none
  open? : Option (Text × List Text) := none
  indent : Nat := 0
  namedSections : List Text := []
  namedOptions : List (Text × Text) := []
  notOptions : List (Nat × Text) := []
deriving Repr

/-- What a line is. -/
inductive LineKind where
  | comment
  | blank
  | content (indent : Nat) (t : Text)
deriving DecidableEq, Repr

/-- What a line is, apart from what stands before it. -/
def lineKind (t : Text) : LineKind :=
  let content := t.strip
  match content with
  | [] => .blank
  | c :: _ =>
    if c = '#' ∨ c = ';' then .comment
    else .content (t.takeWhile CodePoint.isBlank).length content

/-- The name of a section: what stands between the bracket at the beginning and the last
closing one. -/
def sectionName? (t : Text) : Option Text :=
  match t with
  | [] => none
  | c :: rest =>
    if c = '[' then ((Text.cutLast? rest ']').map Prod.fst).filter fun name => name ≠ [] else none

/-- A mark between the name of an option and its value. -/
def separates (c : CodePoint) : Bool := c = '=' || c = ':'

/-- The name of an option, in lower case, and its value. -/
def option? (t : Text) : Option (Text × Text) :=
  let name : Text := t.takeWhile fun c => !separates c
  match t.dropWhile fun c => !separates c with
  | _ :: value => some (name.stripEnd.lower, Text.strip value)
  | [] => none

/-- Sets an option of a section, or a default option. -/
def set (s : Settings) (name option value : Text) : Settings :=
  if name = defaultName then
    { s with defaults := Assoc.put option value s.defaults }
  else
    let options := (Assoc.lookup name s.sections).getD []
    { s with sections := Assoc.put name (Assoc.put option value options) s.sections }

/-- The value that lines make. -/
def joinLines (lines : List Text) : Text := (Text.join "\n" lines).stripEnd

namespace Reading

/-- Writes the lines of the open option, so far, as its value. -/
def store (r : Reading) : Reading :=
  match r.header?, r.open? with
  | some name, some (option, lines) =>
    { r with settings := r.settings.set name option (joinLines lines) }
  | _, _ => r

/-- Adds a line to the open option. -/
def extend (r : Reading) (t : Text) : Reading :=
  store { r with open? := r.open?.map fun o => (o.1, o.2 ++ [t]) }

/-- Starts a section, which may have been named in an earlier file. -/
def startSection (r : Reading) (source : Text) (line : Nat) (name : Text) :
    Except SettingsError Reading :=
  if r.settings.hasSection name then
    if name ∈ r.namedSections then .error (.repeatedSection name source line)
    else
      .ok { r with header? := some name, open? := none, namedSections := name :: r.namedSections }
  else if name = defaultName then .ok { r with header? := some name, open? := none }
  else
    let settings := { r.settings with sections := Assoc.put name [] r.settings.sections }
    .ok { r with
      settings
      header? := some name
      open? := none
      namedSections := name :: r.namedSections }

/-- Starts an option. One without a name is no option, and nothing continues it. -/
def startOption (r : Reading) (source : Text) (line : Nat) (full name option value : Text) :
    Except SettingsError Reading :=
  let notOptions := if option = [] then r.notOptions ++ [(line, full)] else r.notOptions
  if (name, option) ∈ r.namedOptions then .error (.repeatedOption name option source line)
  else
    let opened := store { r with open? := some (option, [value]) }
    .ok { opened with
      open? := if option = [] then none else some (option, [value])
      namedOptions := (name, option) :: r.namedOptions
      notOptions }

/-- A line with content that continues nothing. -/
def startLine (r : Reading) (source : Text) (line : Nat) (full content : Text) :
    Except SettingsError Reading :=
  match sectionName? content with
  | some name => r.startSection source line name
  | none =>
    match r.header? with
    | none => .error (.outsideSection source line full)
    | some name =>
      match option? content with
      | some (option, value) => r.startOption source line full name option value
      | none => .ok { r with notOptions := r.notOptions ++ [(line, full)] }

/-- One more line. -/
def step (source : Text) (r : Reading) (line : Nat) (l : Line) : Except SettingsError Reading :=
  match lineKind l.text with
  | .comment => .ok r
  | .blank => .ok (r.extend [])
  | .content indent content =>
    if r.open?.isSome ∧ r.indent < indent then .ok (r.extend content)
    else startLine { r with indent } source line l.full content

/-- The lines from a number on. -/
def steps (source : Text) (r : Reading) (line : Nat) : List Line → Except SettingsError Reading
  | [] => .ok r
  | l :: rest => do
    let r ← step source r line l
    steps source r (line + 1) rest

end Reading

/-- The settings with those of a file, which is named in faults. -/
def readFile (s : Settings) (source : Text) (bytes : Bytes) : Except SettingsError Settings := do
  let (lines, fault) := Line.ofBytes bytes
  let r ← Reading.steps source { settings := s } 1 lines
  match fault with
  | some e => throw (.undecodable e)
  | none => if r.notOptions = [] then return r.settings else throw (.notOptions source r.notOptions)

end Settings
end Signet
