import Signet.Exchange.Wire
import Signet.Program.Run

/-!
# The command line

The files that arguments may name are read first, then the program runs, and then the
files that it changed are written. Requests go to standard output, a line for each, and the
replies are read from standard input; log entries go to standard error.
-/
namespace Signet
namespace CommandLine

/-- What in an argument may be the name of a file: all of it, or what follows an equality
sign or a short option. -/
def namesIn (t : Text) : List Text :=
  [t, t.drop 2] ++ ((Text.cut? t '=').map Prod.snd).toList

/-- The tree with what stands under a name, which has to be that of a file or a directory. -/
def observe (tree : FileTree) (name : Text) : IO FileTree := do
  let path := (← IO.currentDir) / name.toString
  let place := tree.absolute name
  let above := (List.range place.length).tail.map fun n => place.take n
  if ← path.isDir then
    return { tree with directories := place :: above ++ tree.directories }
  else if ← path.pathExists then
    let content ← IO.FS.readBinFile path
    return { tree with
      directories := above ++ tree.directories
      files := Assoc.put place content.toList tree.files }
  else return tree

/-- The files that arguments name. -/
def filesFor (arguments : List Text) : IO FileTree := do
  let here := Text.ofString (← IO.currentDir).toString
  let start : FileTree := { current := FileTree.lexical [] (here.split '/') }
  let names := (arguments.flatMap namesIn).filter fun (t : Text) => !t.isEmpty
  let settings := FileTree.join here Defaults.fileName
  (settings :: names ++ names.map fun t => FileTree.join t Defaults.fileName).foldlM observe start

/-- Writes the files that differ. -/
def update (before after : FileTree) : IO Unit :=
  after.files.forM fun f =>
    if Assoc.lookup f.1 before.files = some f.2 then pure ()
    else IO.FS.writeBinFile ("/" ++ Text.toString (Text.join "/" f.1)) ⟨f.2.toArray⟩

/-- The variables of the environment that matter. -/
def environment : IO (Assoc Text Text) :=
  (["PROVSTORE_REGISTRY_USERNAME", "PROVSTORE_REGISTRY_PASSWORD",
    "PROVSTORE_REGISTRY_TOKEN"] : List String).filterMapM fun name => do
      return (← IO.getEnv name).map fun value => (Text.ofString name, Text.ofString value)

/-- Goes through a session: writes its log, sends its requests and reads the replies. -/
def drive {α : Type} : Session α → IO α
  | .done result => pure result
  | .log entry next => do
    IO.eprintln (Text.toString ("[" ++ entry.level.name ++ "] " ++ entry.message))
    drive next
  | .exchange request next => do
    IO.println request.line.toString
    (← IO.getStdout).flush
    let line ← (← IO.getStdin).getLine
    drive (next (.ofLine (Text.ofString line)))

end CommandLine
end Signet

open Signet

def main (arguments : List String) : IO UInt32 := do
  let arguments := arguments.map Text.ofString
  let files ← CommandLine.filesFor arguments
  let environment ← CommandLine.environment
  match ← CommandLine.drive (Program.run { files, environment } arguments).run with
  | .ok ending =>
    IO.print ending.output.toString
    CommandLine.update files ending.files
    return ending.code.number.toUInt32
  | .error failure =>
    IO.eprintln failure.message.toString
    return 1
