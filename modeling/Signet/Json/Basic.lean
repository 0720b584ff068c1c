import Signet.Assoc
import Signet.Number.Binary64

/-!
# JSON values

Values keep the order in which the members of an object arrived.
-/
namespace Signet

/-- A JSON value. Integers are exact; numbers with a fraction or an exponent are binary. -/
inductive Json where
  | null
  | bool (b : Bool)
  | int (n : Int)
  | float (x : Binary64)
  | text (t : Text)
  | array (items : List Json)
  | object (members : List (Text × Json))
deriving Repr, BEq, Inhabited

namespace Json

instance : Coe String Json := ⟨fun s => .text s⟩

/-- The members of an object. -/
abbrev Members := Assoc Text Json

abbrev Members.get? (members : Members) (key : Text) : Option Json := Assoc.lookup key members

/-- The member of an object; none for a value that is no object. -/
def member? (key : Text) : Json → Option Json
  | .object members => Assoc.lookup key members
  | _ => none

/-- The members of an object, none for a value that is no object. -/
def members? : Json → Option Members
  | .object members => some members
  | _ => none

def items? : Json → Option (List Json)
  | .array items => some items
  | _ => none

def text? : Json → Option Text
  | .text t => some t
  | _ => none

/-- Empty texts, arrays and objects, zeros, false and null count as absent. -/
def isBlank : Json → Bool
  | .null => true
  | .bool b => !b
  | .int n => n = 0
  | .float x => x.isZero
  | .text t => t.isEmpty
  | .array items => items.isEmpty
  | .object members => members.isEmpty

/-- The shapes a value may be asked to have. -/
inductive Shape where
  | int
  | float
  | text
  | bool
  | array
  | object
  | null
deriving DecidableEq, Repr

/-- The value has the shape. Truth values also count as integers. -/
def hasShape : Shape → Json → Bool
  | .int, .int _ => true
  | .int, .bool _ => true
  | .float, .float _ => true
  | .text, .text _ => true
  | .bool, .bool _ => true
  | .array, .array _ => true
  | .object, .object _ => true
  | .null, .null => true
  | _, _ => false

/-- A step into a value: a key of an object, an index of an array, or a step that leads
nowhere. -/
inductive Step where
  | key (t : Text)
  | index (n : Int)
  | nowhere
deriving DecidableEq, Repr

/-- The value one step inside. Negative indices lead nowhere. -/
def step? : Step → Json → Option Json
  | .key t, .object members => Assoc.lookup t members
  | .index n, .array items => if n < 0 then none else items[n.toNat]?
  | _, _ => none

/-- The value at the end of a path, if it has the shape. -/
def find? (path : List Step) (shape : Shape) (value : Json) : Option Json :=
  (path.foldlM (fun v s => step? s v) value).filter (hasShape shape)

end Json
end Signet
