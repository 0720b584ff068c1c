import Signet.CommandLine.Token

/-!
# What arguments say

The tokens of a command line are taken in order: an option that takes a value uses up the
word behind it, and several flags of one letter can share one argument. Whatever follows a
fault is not looked at.
-/
namespace Signet

/-- What is said at one place of a command line. -/
inductive Event (α : Type) where
  | option (o : α) (value : Option Text)
  /-- A word, and the arguments behind it. -/
  | word (t : Text) (behind : List Text)
  /-- Something that looks like an option and is none. -/
  | stray (t : Text)
  /-- A value is missing or not wanted, or a separator stands where none is allowed. -/
  | fault
deriving DecidableEq, Repr

namespace OptionTable

variable {α : Type}

/-- The options of an argument: those that are complete, and one that waits for its value
in the next argument. -/
abbrev Expansion (α : Type) := List (Event α) × Option α

/-- The options of an argument that starts with a flag, from what stands right behind it;
none if the argument is faulty. -/
def flags (table : OptionTable α) (o : α) : Text → Option (Expansion α)
  | [] => none
  | c :: rest =>
    if c = '-' then none
    else
      match table.option? ['-', c] with
      | none => some ([.option o none, .stray (('-' : CodePoint) :: c :: rest)], none)
      | some next =>
        match rest with
        | [] =>
          if table.takesValue next then some ([.option o none], some next)
          else some ([.option o none, .option next none], none)
        | d :: value =>
          if table.takesValue next then
            some ([.option o none, .option next (some (if d = '=' then value else rest))], none)
          else if d = '=' then none
          else (flags table next rest).map fun r => (.option o none :: r.1, r.2)

/-- The options of an argument; none if the argument is faulty. -/
def expand? (table : OptionTable α) (o : α) (attached : Option Attachment) : Option (Expansion α) :=
  match attached with
  | none => some (if table.takesValue o then ([], some o) else ([.option o none], none))
  | some a =>
    if table.takesValue o then some ([.option o (some a.text)], none)
    else if a.marked then none
    else table.flags o a.text

/-- What tokens say, up to the first fault. -/
def events (table : OptionTable α) : List (Token α) → List (Event α)
  | [] => []
  | token :: rest =>
    match token.kind with
    | .word => .word token.argument (rest.map Token.argument) :: events table rest
    | .separator => [.fault]
    | .unknown => .stray token.argument :: events table rest
    | .option o attached =>
      match table.expand? o attached with
      | none => [.fault]
      | some (complete, none) => complete ++ events table rest
      | some (complete, some waiting) =>
        match rest with
        | ⟨t, .word⟩ :: more => complete ++ .option waiting (some t) :: events table more
        | _ => [.fault]

/-- What arguments say, which is a fault if one of them can be read in several ways. -/
def read (table : OptionTable α) (arguments : List Text) : List (Event α) :=
  match table.tokens? arguments with
  | some tokens => table.events tokens
  | none => [.fault]

end OptionTable
end Signet
