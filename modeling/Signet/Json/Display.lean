import Signet.Json.Basic

/-!
# Values shown as text

A value that stands where a text is expected is shown: a text as it is, everything else
with capitalised constants and quoted texts.
-/
namespace Signet
namespace Json

/-- A shown number; the three that are not finite have short names. -/
def displayFloat (x : Binary64) : Text :=
  match x.toText? with
  | some t => t
  | none =>
    match x with
    | .infinite true => "-inf"
    | .infinite false => "inf"
    | _ => "nan"

mutual

/-- A value inside another one, texts quoted. -/
def displayInner : Json → Text
  | .null => "None"
  | .bool true => "True"
  | .bool false => "False"
  | .int n => Decimal.ofInt n
  | .float x => displayFloat x
  | .text t => t.quoted
  | .array items => "[" ++ Text.join ", " (displayItems items) ++ "]"
  | .object members => "\x7b" ++ Text.join ", " (displayMembers members) ++ "\x7d"

def displayItems : List Json → List Text
  | [] => []
  | v :: rest => displayInner v :: displayItems rest

def displayMembers : List (Text × Json) → List Text
  | [] => []
  | (k, v) :: rest => (k.quoted ++ ": " ++ displayInner v) :: displayMembers rest

end

/-- A value shown as text. -/
def display : Json → Text
  | .text t => t
  | v => displayInner v

@[simp] theorem display_text (t : Text) : display (.text t) = t := rfl

end Json
end Signet
