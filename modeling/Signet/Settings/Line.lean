import Signet.Text.Utf8

/-!
# Lines of a file

A file is decoded in blocks of fixed size, a character that is cut by the end of a block
being carried over to the next one. Lines end with a line feed, a carriage return, or
both. If a block cannot be decoded, the lines that were complete before it still count, and
the position of the fault is that in the carried bytes and the block.
-/
namespace Signet

/-- A line, without the mark at its end, and whether it had one. -/
structure Line where
  text : Text
  ended : Bool
deriving DecidableEq, Repr

/-- The line with a line feed at its end, if it was ended. -/
def Line.full (l : Line) : Text := if l.ended then l.text ++ "\n" else l.text

namespace Line

/-- The bytes that are decoded at a time. -/
def blockSize : Nat := 8192

/-- The bytes in blocks, at most as many as the first argument says. -/
def blocks : Nat → Bytes → List Bytes
  | 0, _ => []
  | count + 1, bytes =>
    if bytes.isEmpty then [] else bytes.take blockSize :: blocks count (bytes.drop blockSize)

/-- The items of a block without a character that its end cuts, and the bytes of that
character. -/
def splitUnfinished (items : List Utf8Item) : List Utf8Item × Bytes :=
  match items.getLast? with
  | some (.malformed .unfinished bytes) => (items.dropLast, bytes)
  | _ => (items, [])

/-- The text of blocks after carried bytes, up to the first fault. -/
def decodeBlocks (carried : Bytes) : List Bytes → Text × Option DecodeError
  | [] =>
    match Utf8.decode carried with
    | .ok t => (t, none)
    | .error e => ([], some e)
  | block :: rest =>
    let (items, cut) := splitUnfinished (Utf8.items (carried ++ block))
    match Utf8.strict 0 items with
    | .error e => ([], some e)
    | .ok t =>
      let (more, fault) := decodeBlocks cut rest
      (t ++ more, fault)

/-- The text with a line feed for every mark at the end of a line. A line feed behind a
carriage return belongs to the same mark. -/
def unifyMarks (afterReturn : Bool) : Text → Text
  | [] => []
  | c :: rest =>
    if c.val = 0x0D then .ofNat 0x0A :: unifyMarks true rest
    else if c.val = 0x0A ∧ afterReturn then unifyMarks false rest
    else c :: unifyMarks false rest

/-- The pieces of a text up to its line feeds, the last one maybe not ended. -/
def splitLines : Text → List Line
  | [] => []
  | c :: rest =>
    if c.val = 0x0A then ⟨[], true⟩ :: splitLines rest
    else
      match splitLines rest with
      | [] => [⟨[c], false⟩]
      | line :: lines => ⟨c :: line.text, line.ended⟩ :: lines

def ofText (t : Text) : List Line := splitLines (unifyMarks false t)

/-- A text without a carriage return at its very end, which a line feed may yet follow. -/
def withoutOpenReturn (t : Text) : Text :=
  if t.getLast? = some (.ofNat 0x0D) then t.dropLast else t

/-- The lines of a file, and the fault that ends them. After a fault only ended lines count. -/
def ofBytes (bytes : Bytes) : List Line × Option DecodeError :=
  match decodeBlocks [] (blocks (bytes.length / blockSize + 1) bytes) with
  | (t, none) => (ofText t, none)
  | (t, some fault) => ((ofText (withoutOpenReturn t)).filter Line.ended, some fault)

end Line
end Signet
