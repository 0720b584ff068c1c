import Signet.Text.Digit

/-!
# Arguments of a command line

An argument is an option, a word, or a separator behind which all arguments are words.
Options have short names (one dash) and long names (two dashes). A name may be cut short as
long as only one name starts that way. A value can stand in the argument of its option:
behind an equality sign, or right behind a short name of one letter.
-/
namespace Signet

/-- The options of a command: their names with the dashes, and which of them take a value. -/
structure OptionTable (α : Type) where
  names : List (Text × α)
  takesValue : α → Bool

/-- What follows the name of an option in one argument, and whether an equality sign
separates them. -/
structure Attachment where
  text : Text
  marked : Bool
deriving DecidableEq, Repr

inductive TokenKind (α : Type) where
  | word
  | separator
  | option (o : α) (attached : Option Attachment)
  /-- The argument looks like an option and is none. -/
  | unknown
deriving DecidableEq, Repr

/-- An argument and what it is. -/
structure Token (α : Type) where
  argument : Text
  kind : TokenKind α
deriving DecidableEq, Repr

/-- A dash, digits, and maybe a point before the last digits. One line feed may follow. -/
def isNegativeNumber (t : Text) : Bool :=
  match t with
  | [] => false
  | sign :: rest =>
    let isDecimal (d : Text) : Bool := d.all fun (c : CodePoint) => c.decimalValue?.isSome
    let body := if rest.getLast? = some (.ofNat 0x0A) then rest.dropLast else rest
    sign = '-' && match Text.cut? body '.' with
      | none => !body.isEmpty && isDecimal body
      | some (whole, fraction) => isDecimal whole && !fraction.isEmpty && isDecimal fraction

namespace OptionTable

variable {α : Type}

def option? (table : OptionTable α) (name : Text) : Option α :=
  (table.names.find? fun n => n.1 = name).map Prod.snd

/-- The option whose name stands before the first equality sign. -/
def marked? (table : OptionTable α) (t : Text) : Option (TokenKind α) := do
  let (name, value) ← Text.cut? t '='
  return .option (← table.option? name) (some ⟨value, true⟩)

/-- The ways to read an argument as the beginning of a long name, maybe with a value. -/
def longReadings (table : OptionTable α) (t : Text) : List (TokenKind α) :=
  let (start, attached) : Text × Option Attachment :=
    match Text.cut? t '=' with
    | some (name, value) => (name, some ⟨value, true⟩)
    | none => (t, none)
  (table.names.filter fun n => n.1.startsWith start).map fun n => .option n.2 attached

/-- The ways to read an argument as the beginning of a short name, or as a short name of one
letter with something right behind it. -/
def shortReadings (table : OptionTable α) (t : Text) : List (TokenKind α) :=
  table.names.filterMap fun n =>
    if n.1 = t.take 2 then some (.option n.2 (some ⟨t.drop 2, false⟩))
    else if n.1.startsWith t then some (.option n.2 none)
    else none

/-- The ways to read an argument that is no full name. -/
def readings (table : OptionTable α) (t : Text) : List (TokenKind α) :=
  if t.startsWith "--" then table.longReadings t else table.shortReadings t

/-- What an argument is, none if it can be read in several ways. -/
def kind? (table : OptionTable α) (t : Text) : Option (TokenKind α) :=
  if t.head? ≠ some '-' then some .word
  else
    match table.option? t with
    | some o => some (.option o none)
    | none =>
      if t.length = 1 then some .word
      else
        match table.marked? t with
        | some kind => some kind
        | none =>
          match table.readings t with
          | [kind] => some kind
          | _ :: _ :: _ => none
          | [] =>
            some (if isNegativeNumber t || t.contains (' ' : Char) then .word else .unknown)

/-- The tokens of arguments, none if one of them can be read in several ways. -/
def tokens? (table : OptionTable α) : List Text → Option (List (Token α))
  | [] => some []
  | t :: rest =>
    if t = "--" then some (⟨t, .separator⟩ :: rest.map fun u => ⟨u, .word⟩)
    else do return ⟨t, ← table.kind? t⟩ :: (← tokens? table rest)

end OptionTable
end Signet
