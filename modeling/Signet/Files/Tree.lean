import Signet.Assoc
import Signet.Text.Quoted
import Signet.Text.Utf8

/-!
# Files

A tree of directories and files with a current directory. A name is walked part by part:
every part but the last has to be a directory, and steps to the same and to the upper
directory are taken as they come.
-/
namespace Signet

/-- A place in the tree, part by part from the root. -/
abbrev Location := List Text

/-- Directories, files with their content, and the current directory. -/
structure FileTree where
  current : Location := []
  directories : List Location := []
  files : Assoc Location Bytes := []
deriving DecidableEq, Repr

/-- Why a file cannot be opened. -/
inductive FileFault where
  | missing
  | notDirectory
  | isDirectory
  | nameTooLong
  /-- The name has a character that no name can have. -/
  | nullCharacter
  /-- The name has surrogates that stand for no byte. -/
  | unencodable (e : EncodeError)
deriving DecidableEq, Repr

/-- The name of a file and why it cannot be opened. -/
structure FileError where
  fault : FileFault
  name : Text
deriving DecidableEq, Repr

/-- The wording has a number and a reason that are common to all systems. -/
def FileError.message (e : FileError) : Text :=
  match e.fault with
  | .missing => "[Errno 2] No such file or directory: " ++ e.name.quoted
  | .notDirectory => "[Errno 20] Not a directory: " ++ e.name.quoted
  | .isDirectory => "[Errno 21] Is a directory: " ++ e.name.quoted
  | .nameTooLong => "[Errno 36] File name too long: " ++ e.name.quoted
  | .nullCharacter => "embedded null byte"
  | .unencodable fault => fault.message

namespace FileTree

/-- What stands at a place. -/
inductive Node where
  | file (content : Bytes)
  | directory
deriving DecidableEq, Repr

/-- What stands at a place. The directories above the current one are always there. -/
def node? (tree : FileTree) (place : Location) : Option Node :=
  if place.isPrefixOf tree.current ∨ place ∈ tree.directories then some .directory
  else (Assoc.lookup place tree.files).map .file

/-- The most bytes of one part of a name. -/
def maxPart : Nat := 255

/-- The bytes that no whole name reaches. -/
def maxName : Nat := 4096

def size (t : Text) : Nat := (t.flatMap Utf8.encodeCodePoint).length

/-- The place that the parts of a name lead to. -/
def walk (tree : FileTree) (place : Location) : List Text → Except FileFault Location
  | [] => .ok place
  | part :: rest =>
    match tree.node? place with
    | none => .error .missing
    | some (.file _) => .error .notDirectory
    | some .directory =>
      if part = [] ∨ part = "." then walk tree place rest
      else if part = ".." then walk tree place.dropLast rest
      else if size part > maxPart then .error .nameTooLong
      else walk tree (place ++ [part]) rest

/-- A surrogate that stands in a name for a byte beyond ASCII. -/
def standsForByte (c : CodePoint) : Bool := 0xDC80 ≤ c.val && c.val ≤ 0xDCFF

/-- The first run of surrogates of a name, from a position on, that starts with none that
stands for a byte. -/
def unencodable? (position : Nat) : Text → Option EncodeError
  | [] => none
  | c :: rest =>
    if c.isSurrogate && !standsForByte c then
      some ⟨position, 1 + (rest.takeWhile CodePoint.isSurrogate).length, c⟩
    else unencodable? (position + 1) rest

/-- The place that a name leads to, from the root or from the current directory. -/
def locate (tree : FileTree) (name : Text) : Except FileFault Location :=
  match unencodable? 0 name with
  | some e => .error (.unencodable e)
  | none =>
    if name.contains (.ofNat 0) then .error .nullCharacter
    else if name = [] then .error .missing
    else if size name ≥ maxName then .error .nameTooLong
    else walk tree (if name.head? == some '/' then [] else tree.current) (name.split '/')

/-- What a name leads to. -/
def find (tree : FileTree) (name : Text) : Except FileFault Node := do
  match tree.node? (← tree.locate name) with
  | some node => return node
  | none => throw .missing

def read (tree : FileTree) (name : Text) : Except FileError Bytes :=
  match tree.find name with
  | .ok (.file content) => .ok content
  | .ok .directory => .error ⟨.isDirectory, name⟩
  | .error fault => .error ⟨fault, name⟩

def isFile (tree : FileTree) (name : Text) : Bool :=
  match tree.find name with
  | .ok (.file _) => true
  | _ => false

def isDirectory (tree : FileTree) (name : Text) : Bool :=
  match tree.find name with
  | .ok .directory => true
  | _ => false

/-- The tree with a file of the given content, which may have been there. -/
def write (tree : FileTree) (name : Text) (content : Bytes) : Except FileError FileTree :=
  match tree.locate name with
  | .error fault => .error ⟨fault, name⟩
  | .ok place =>
    if tree.node? place = some .directory then .error ⟨.isDirectory, name⟩
    else .ok { tree with files := Assoc.put place content tree.files }

/-- The whole name of the current directory. -/
def currentName (tree : FileTree) : Text := "/" ++ Text.join "/" tree.current

/-- A name in a directory. -/
def join (directory name : Text) : Text :=
  if directory = [] ∨ directory.getLast? = some ('/' : Char) then directory ++ name
  else directory ++ "/" ++ name

/-- The place that a name would lead to if all its parts were directories. -/
def lexical (place : Location) : List Text → Location
  | [] => place
  | part :: rest =>
    if part = [] ∨ part = "." then lexical place rest
    else if part = ".." then lexical place.dropLast rest
    else lexical (place ++ [part]) rest

/-- The place that a name would lead to. -/
def absolute (tree : FileTree) (name : Text) : Location :=
  lexical (if name.head? == some '/' then [] else tree.current) (name.split '/')

/-- The parts behind the common beginning of two places. -/
def diverge : Location → Location → Location × Location
  | a :: s, b :: t => if a = b then diverge s t else (a :: s, b :: t)
  | s, t => (s, t)

/-- A name as it is seen from a directory. -/
def relative (tree : FileTree) (name directory : Text) : Text :=
  let (up, down) := diverge (tree.absolute directory) (tree.absolute name)
  let parts := up.map (fun _ => Text.ofString "..") ++ down
  if parts = [] then "." else Text.join "/" parts

end FileTree
end Signet
