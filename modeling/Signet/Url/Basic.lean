import Signet.Text.Quoted
import Signet.Url.Address

/-!
# Addresses of resources

An address has a scheme, an authority, a path with parameters, a query and a fragment. A
location may be relative; it is resolved against the address of the request that it
answers. Addresses are read without decoding anything: leading controls and blanks are
dropped, tabs and line ends are removed, and only the authority is checked.
-/
namespace Signet

/-- The parts of an address. -/
structure Url where
  scheme : Text
  authority : Text
  path : Text
  params : Text
  query : Text
  fragment : Text
deriving DecidableEq, Repr

/-- Why an authority is refused. -/
inductive UrlError where
  | unbalancedBrackets
  | notAddress (host : Text)
  | shortAddress
  | futureAddress
  | lookalike (authority : Text)
deriving DecidableEq, Repr

def UrlError.message : UrlError → Text
  | .unbalancedBrackets => "Invalid IPv6 URL"
  | .notAddress host => host.quoted ++ " does not appear to be an IPv4 or IPv6 address"
  | .shortAddress => "An IPv4 address cannot be in brackets"
  | .futureAddress => "IPvFuture address is invalid"
  | .lookalike authority =>
    "netloc '" ++ authority ++ "' contains invalid characters under NFKC normalization"

namespace Url

/-- Characters whose compatibility form has one of the marks that end an authority or
divide it. -/
def lookalikes : List Nat :=
  [0x2047, 0x2048, 0x2049, 0x2100, 0x2101, 0x2105, 0x2106, 0x2A74, 0xFE13, 0xFE16, 0xFE55, 0xFE56,
   0xFE5F, 0xFE6B, 0xFF03, 0xFF0F, 0xFF1A, 0xFF1F, 0xFF20]

/-- A host in brackets is a numeric address of the long notation or of a future one. -/
def checkBracketed (host : Text) : Except UrlError Unit :=
  if host.head? == some 'v' then
    if Address.isFuture host then .ok () else .error .futureAddress
  else if Address.isV4 host then .error .shortAddress
  else if Address.isV6 host then .ok ()
  else .error (.notAddress host)

/-- Brackets are balanced and hold an address. -/
def checkAuthority (authority : Text) : Except UrlError Unit :=
  let opens := authority.contains ('[' : Char)
  if opens != authority.contains (']' : Char) then .error .unbalancedBrackets
  else if opens then
    let inner := ((authority.cut? '[').map Prod.snd).getD []
    checkBracketed (((inner.cut? ']').map Prod.fst).getD inner)
  else .ok ()

/-- No character of the authority looks like a mark. -/
def checkLookalikes (authority : Text) : Except UrlError Unit :=
  if authority.any fun c => lookalikes.contains c.val then .error (.lookalike authority) else .ok ()

/-- Characters of schemes. -/
def isSchemeCharacter (c : CodePoint) : Bool :=
  c.isAsciiLetter || c.isAsciiDigit || c = '+' || c = '-' || c = '.'

/-- The address without leading controls and blanks, tabs and line ends. -/
def clean (t : Text) : Text :=
  (t.dropWhile fun c => c.val ≤ 0x20).filter fun c => c.val ≠ 0x09 && c.val ≠ 0x0A && c.val ≠ 0x0D

/-- The scheme in front of a colon, in small letters, and what follows; the given scheme if
there is none. -/
def takeScheme (scheme t : Text) : Text × Text :=
  match t.cut? ':' with
  | some (name, rest) =>
    match name with
    | c :: _ =>
      if c.isAsciiLetter && name.all isSchemeCharacter then
        (name.map fun c => if c.isAsciiUpper then .ofNat (c.val + 32) else c, rest)
      else (scheme, t)
    | [] => (scheme, t)
  | none => (scheme, t)

/-- A mark that ends an authority. -/
def endsAuthority (c : CodePoint) : Bool := c = '/' || c = '?' || c = '#'

/-- What stands before and after the first mark, and nothing after it if there is none. -/
def cutAt (t : Text) (mark : CodePoint) : Text × Text := (t.cut? mark).getD (t, [])

/-- The last part of a path may have parameters behind a semicolon. -/
def takeParams (path : Text) : Text × Text :=
  match path.cutLast? '/' with
  | some (directory, last) =>
    match last.cut? ';' with
    | some (name, params) => (directory ++ "/" ++ name, params)
    | none => (path, [])
  | none => cutAt path ';'

/-- The parts of an address; the given scheme is meant if it has none. -/
def parse (scheme t : Text) : Except UrlError Url := do
  let (scheme, rest) := takeScheme scheme (clean t)
  let hasAuthority := rest.startsWith "//"
  let authority := if hasAuthority then (rest.drop 2).takeWhile fun c => !endsAuthority c else []
  let rest := if hasAuthority then (rest.drop 2).dropWhile fun c => !endsAuthority c else rest
  checkAuthority authority
  let (rest, fragment) := cutAt rest '#'
  let (path, query) := cutAt rest '?'
  checkLookalikes authority
  let (path, params) := takeParams path
  return ⟨scheme, authority, path, params, query, fragment⟩

/-- A part behind its mark, nothing for an empty part. -/
def marked (mark : Text) (part : Text) : Text := if part.isEmpty then [] else mark ++ part

def toText (u : Url) : Text :=
  let path := u.path ++ marked ";" u.params
  let slash : Text := if path.isEmpty || path.head? == some '/' then "" else "/"
  u.scheme ++ "://" ++ u.authority ++ slash ++ path ++ marked "?" u.query ++ marked "#" u.fragment

/-- A path without steps to the same or to the upper directory, given by its segments. Steps
beyond the top lead nowhere. -/
def resolveFrom (resolved : List Text) : List Text → List Text
  | [] => resolved
  | segment :: rest =>
    if segment = ".." then resolveFrom resolved.dropLast rest
    else if segment = "." then resolveFrom resolved rest
    else resolveFrom (resolved ++ [segment]) rest

/-- The segments without empty ones between the first and the last. -/
def dropEmptyInside (segments : List Text) : List Text :=
  match segments with
  | [] => []
  | first :: rest =>
    first :: (rest.dropLast.filter fun s => !s.isEmpty) ++ rest.getLast?.toList

/-- A path relative to the directory of another one. -/
def joinPath (base path : Text) : Text :=
  let parts := base.split '/'
  let directory := if parts.getLast? = some [] then parts else parts.dropLast
  let segments :=
    if path.head? == some '/' then path.split '/'
    else dropEmptyInside (directory ++ path.split '/')
  let resolved := resolveFrom [] segments
  let closed :=
    match segments.getLast? with
    | some last => if last = "." ∨ last = ".." then resolved ++ [[]] else resolved
    | none => resolved
  let joined := Text.join "/" closed
  if joined.isEmpty then "/" else joined

/-- A location relative to a base with an authority. A location with another scheme stands for
itself, and so does one with an authority of its own. -/
def join (base location : Text) : Except UrlError Text := do
  if location.isEmpty then return base
  let b ← parse [] base
  let u ← parse b.scheme location
  if u.scheme ≠ b.scheme then return location
  else if !u.authority.isEmpty then return u.toText
  else if u.path.isEmpty && u.params.isEmpty then
    let query := if u.query.isEmpty then b.query else u.query
    return { b with query, fragment := u.fragment }.toText
  else return { u with authority := b.authority, path := joinPath b.path u.path }.toText

end Url
end Signet
