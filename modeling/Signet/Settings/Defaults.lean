import Signet.Exchange.Session
import Signet.Files.Tree
import Signet.Settings.Reader

/-!
# Default settings

The program comes with a file of settings, which every load reads first and which can be
copied for users to change. The settings of a user take precedence.
-/
namespace Signet
namespace Defaults

def fileName : Text := "defaults.ini"

/-- The lines of the file, with the notice that it opens with. -/
def lines : List Text :=
  ["# Copyright (c) 2026 - 2026, Oracle and/or its affiliates. All rights reserved.",
   "# Licensed under the Universal Permissive License v 1.0 as shown at https://oss.oracle.com/licenses/upl/.",
   "",
   "[requests]",
   "# The default timeout in seconds for registry requests.",
   "timeout = 30",
   "",
   "[storage.oci]",
   "# The storage format for signatures and attestations. One of:",
   "#   legacy          - tag-based storage (sha256-<hex>.sig / sha256-<hex>.att), requires OCI v1.",
   "#   referrers-api   - OCI 1.1 referrers API with DSSE attestations.",
   "#   protobuf-bundle - experimental sigstore bundle pushed through the referrers API.",
   "# Unset or unknown values fall back to legacy.",
   "format =",
   "# The repository (registry/repo) where signed material is written.",
   "# If empty, the repository of the signed artifact is used.",
   "repository =",
   "# Talk to the registry over plain HTTP.",
   "insecure = False",
   "# Verify the TLS certificate of the registry.",
   "verify_tls = True",
   "# Deprecated: use \"format\" instead.",
   "# true maps to protobuf-bundle and false maps to legacy.",
   "# referrers_api = False"]

def content : Bytes :=
  (lines.flatMap fun (l : Text) => l ++ [CodePoint.ofNat 0x0A]).flatMap Utf8.encodeCodePoint

end Defaults

/-- Why settings cannot be loaded. -/
inductive LoadError where
  | missing (name : Text)
  | unreadable (e : SettingsError)
deriving DecidableEq, Repr

def LoadError.messages : LoadError → List Text
  | .missing name => ["The defaults configuration file " ++ name ++ " does not exist."]
  | .unreadable e => ["Failed to read the defaults.ini files.", e.message]

namespace Settings

/-- The settings with the default ones and then those of a file of the user, unless its name
is empty. -/
def load (files : FileTree) (s : Settings) (name : Text) : Except LoadError Settings :=
  if name ≠ [] ∧ !files.isFile name then .error (.missing name)
  else do
    let s ← (s.readFile Defaults.fileName Defaults.content).mapError .unreadable
    match files.read name with
    | .ok bytes => (s.readFile name bytes).mapError .unreadable
    | .error _ => return s

end Settings

/-- Why a copy is refused by the system. -/
inductive CopyRefusal where
  | permission
  | sameFile
deriving DecidableEq, Repr

namespace Defaults

/-- Copies the file into a directory, or to a name of its own in a directory with the name of
the file, and tells whether that succeeded. The log names the copy as it is seen from a
directory. -/
def create (files : FileTree) (refusal : Option CopyRefusal) (output directory : Text) :
    Attempt FileError (Bool × FileTree) := do
  let copy := FileTree.join output fileName
  let shown := files.relative copy directory
  match refusal with
  | some .permission =>
    Attempt.log .error ("[Errno 13] Permission denied: " ++ fileName.quoted)
    return (false, files)
  | some .sameFile =>
    Attempt.log .error ("Failed to create " ++ shown ++
      ": source and destination are the same file.")
    return (false, files)
  | none =>
    let target := if files.isDirectory copy then FileTree.join copy fileName else copy
    let files ← Attempt.ofExcept (files.write target content)
    Attempt.log .info ("Dumped the default values in " ++ shown ++ ".")
    return (true, files)

end Defaults
end Signet
