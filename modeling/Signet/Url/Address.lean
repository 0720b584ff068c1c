import Signet.Text.CodePoint

/-!
# Network addresses

The two notations of numeric addresses that may stand for a host: four decimal numbers,
and groups of hexadecimal digits of which one run of zero groups may be left out.
-/
namespace Signet
namespace Address

/-- A decimal number up to 255 without leading zeros. -/
def isOctet (t : Text) : Bool :=
  !t.isEmpty && t.length ≤ 3 && t.all CodePoint.isAsciiDigit &&
    (t.length = 1 || t.head? != some '0') &&
    t.foldl (fun n c => 10 * n + (c.val - 0x30)) 0 ≤ 255

/-- Four numbers with dots in between. -/
def isV4 (t : Text) : Bool :=
  let octets := t.split '.'
  octets.length = 4 && octets.all isOctet

/-- Up to four hexadecimal digits. -/
def isGroup (t : Text) : Bool := !t.isEmpty && t.length ≤ 4 && t.all CodePoint.isHexDigit

/-- The last group may be an address of four numbers, which takes the place of two groups. -/
def expandLast (groups : List Text) : Option (List Text) :=
  match groups.getLast? with
  | some last =>
    if last.contains ('.' : Char) then
      if isV4 last then some (groups.dropLast ++ [("0" : Text), "0"]) else none
    else some groups
  | none => none

/-- The groups before and after the first empty group that is neither first nor last. -/
def aroundGap (groups : List Text) : Option (List Text × List Text) :=
  match groups with
  | [] => none
  | first :: rest =>
    let high := rest.takeWhile fun g => !g.isEmpty
    match rest.dropWhile fun g => !g.isEmpty with
    | _ :: low => if low.isEmpty then none else some (first :: high, low)
    | [] => none

/-- Groups that are all there, or groups around a gap. An empty group at an end has to be
part of the gap. -/
def areGroups (groups : List Text) : Bool :=
  match aroundGap groups with
  | none => groups.length = 8 && groups.all isGroup
  | some (high, low) =>
    let high : List Text := if high = [[]] then [] else high
    let low : List Text := if low = [[]] then [] else low
    high.length + low.length ≤ 7 && high.all isGroup && low.all isGroup

/-- Groups with colons in between, maybe with a zone behind a percent sign. -/
def isV6 (t : Text) : Bool :=
  let (numeric, zone) :=
    match t.cut? '%' with
    | some (numeric, zone) => (numeric, some zone)
    | none => (t, none)
  let zoneFits :=
    match zone with
    | some zone => !zone.isEmpty && !zone.contains ('%' : Char)
    | none => true
  let groups := numeric.split ':'
  !t.contains ('/' : Char) && zoneFits && 3 ≤ groups.length &&
    match expandLast groups with
    | some groups => groups.length ≤ 9 && areGroups groups
    | none => false

/-- The notation of future addresses: a version, a dot and what belongs to that version. -/
def isFuture (t : Text) : Bool :=
  let version := (t.drop 1).takeWhile CodePoint.isHexDigit
  match (t.drop 1).dropWhile CodePoint.isHexDigit with
  | c :: rest => !version.isEmpty && c = '.' && !rest.isEmpty && !rest.contains ('\n' : Char)
  | [] => false

end Address
end Signet
