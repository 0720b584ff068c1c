import Signet.Reference.Error

/-!
# Repositories

A repository is a path in a registry. The part of a name before its first slash is the
registry if it looks like a host; otherwise the public hub is meant, where a path of one
component belongs to the common namespace. Each part is checked as one line: a single line
feed at its end is not looked at.
-/
namespace Signet

/-- A repository: the host of a registry, maybe with a port, and a path there. -/
structure Repository where
  registry : Text
  path : Text
deriving DecidableEq, Repr

namespace Repository

/-- The registry of names that name none. -/
def defaultRegistry : Text := "index.docker.io"

/-- The namespace of single components on the default registry. -/
def defaultNamespace : Text := "library"

def toText (r : Repository) : Text := r.registry ++ "/" ++ r.path

end Repository

namespace Grammar

/-- The text without one line feed at its end. -/
def line (t : Text) : Text :=
  match t with
  | [] => []
  | [c] => if c = '\n' then [] else [c]
  | c :: d :: rest => c :: line (d :: rest)

/-- Small letters and digits, of which the words of a path are made. -/
def isPathCharacter (c : CodePoint) : Bool := c.isAsciiLower || c.isAsciiDigit

/-- Where the reading of a path component stands. -/
inductive Place where
  /-- A word has to begin. -/
  | outside
  /-- Inside a word. -/
  | word
  /-- Behind one low line, which a second one may follow. -/
  | lowLine
  /-- Behind hyphens, which more may follow. -/
  | hyphen
deriving DecidableEq, Repr

/-- The next place, none if the character cannot stand here. -/
def Place.next (place : Place) (c : CodePoint) : Option Place :=
  if isPathCharacter c then some .word
  else
    match place with
    | .outside => none
    | .word =>
      if c = '.' then some .outside
      else if c = '_' then some .lowLine
      else if c = '-' then some .hyphen
      else none
    | .lowLine => if c = '_' then some .outside else none
    | .hyphen => if c = '-' then some .hyphen else none

/-- The text brings a component from a place to the end of a word. -/
def endsWord (place : Place) : Text → Bool
  | [] => place = .word
  | c :: rest =>
    match place.next c with
    | some place => endsWord place rest
    | none => false

/-- Words of small letters and digits, separated by a dot, one or two low lines, or hyphens. -/
def isComponent (t : Text) : Bool := endsWord .outside t

/-- Letters, digits, dots and hyphens, of which host names are made. -/
def isHostCharacter (c : CodePoint) : Bool :=
  c.isAsciiLetter || c.isAsciiDigit || c = '.' || c = '-'

/-- Hexadecimal digits and colons, of which bracketed addresses are made. -/
def isAddressCharacter (c : CodePoint) : Bool := c.isHexDigit || c = ':'

/-- Nothing, or a colon and digits. -/
def isPort : Text → Bool
  | [] => true
  | c :: digits => c = ':' && !digits.isEmpty && digits.all CodePoint.isAsciiDigit

/-- A host name or a bracketed address, with or without a port. -/
def isHost (t : Text) : Bool :=
  if t.head? == some '[' then
    let inner := t.drop 1
    let rest := inner.dropWhile isAddressCharacter
    !(inner.takeWhile isAddressCharacter).isEmpty && rest.head? == some ']' && isPort (rest.drop 1)
  else !(t.takeWhile isHostCharacter).isEmpty && isPort (t.dropWhile isHostCharacter)

/-- The first part of a name is a host if it has a dot or a colon, opens a bracket, or is
the local host. -/
def looksLikeHost (t : Text) : Bool :=
  t.any (fun c => c = '.' || c = ':') || t == "localhost" || t.head? == some '['

end Grammar

namespace Repository
open Grammar

/-- Registry and path of a name, before anything is checked. -/
def locate (name : Text) : Repository :=
  let named : Repository :=
    match name.cut? '/' with
    | some (first, rest) =>
      if looksLikeHost first then ⟨first, rest⟩ else ⟨defaultRegistry, name⟩
    | none => ⟨defaultRegistry, name⟩
  if named.registry = defaultRegistry ∧ ('/' : CodePoint) ∉ named.path then
    { named with path := defaultNamespace ++ "/" ++ named.path }
  else named

/-- The repository of a name. The path is checked before the registry. -/
def parse (name : Text) : Except ReferenceError Repository :=
  if name = [] then .error .emptyName
  else
    let r := locate name
    if !(r.path.split '/').all fun part => isComponent (line part) then .error (.invalidName name)
    else if !isHost (line r.registry) then .error (.invalidRegistry r.registry name)
    else .ok r

end Repository
end Signet
