import Signet.Entity
import Signet.Exchange.Session
import Signet.Json.Document
import Signet.MediaType

/-!
# A registry in memory

Blobs and manifests of repositories, the lists of manifests that refer to a subject, and
the count of uploads that were started. A manifest is taken only if everything that it
names is there, and it is kept under its reference and under its digest.
-/
namespace Signet

/-- What names content in a registry: a repository by its name, the host included, and a tag
or digest in it. -/
structure Registry.Key where
  repository : Text
  reference : Text
deriving DecidableEq, Repr

def Registry.Key.toText (k : Registry.Key) : Text := k.repository ++ "@" ++ k.reference

structure StoredManifest where
  content : Bytes
  mediaType : Text := MediaType.imageManifest
deriving DecidableEq, Repr

/-- The state of a registry. -/
structure Registry where
  blobs : Assoc Registry.Key Bytes := []
  manifests : Assoc Registry.Key StoredManifest := []
  referrers : Assoc Registry.Key (List Text) := []
  uploads : Nat := 0
  listsReferrers : Bool := true
deriving Repr

namespace Registry

/-- The parts of the address of a request: a host, and what stands behind the version. -/
structure Target where
  host : Text
  segments : List Text
deriving DecidableEq, Repr

/-- Host and path of an address, without query and fragment; nothing if there is no
authority. -/
def authorityAndPath (url : Text) : Text :=
  (afterAuthorityMark url).takeWhile fun c => c ≠ '?' && c ≠ '#'
where
  afterAuthorityMark : Text → Text
  | [] => []
  | c :: rest =>
    if Text.startsWith (c :: rest) "://" then rest.drop 2 else afterAuthorityMark rest

/-- What an address names, if it is one of the version that is served. -/
def target? (url : Text) : Option Target :=
  match (authorityAndPath url).cut? '/' with
  | none => none
  | some (host, path) =>
    match path.split '/' with
    | version :: segments => if version = "v2" then some ⟨host, segments⟩ else none
    | [] => none

/-- What is asked of a repository. -/
inductive Query where
  | upload (name : Text)
  | blob (name digest : Text)
  | referrers (name digest : Text)
  | manifest (name reference : Text)
deriving DecidableEq, Repr

/-- The question that segments ask: the last of them is a reference, the one before it says
of what, and the others are the name of a repository. -/
def query? (segments : List Text) : Option Query :=
  match segments.reverse with
  | last :: what :: more :: others =>
    let name (parts : List Text) : Text := Text.join "/" parts.reverse
    if what = "uploads" ∧ more = "blobs" ∧ others ≠ [] then some (.upload (name others))
    else if what = "blobs" then some (.blob (name (more :: others)) last)
    else if what = "referrers" then some (.referrers (name (more :: others)) last)
    else if what = "manifests" then some (.manifest (name (more :: others)) last)
    else none
  | _ => none

/-- A response without headers. -/
def answer (status : Int) (body : Text := []) : RawResponse :=
  ⟨status, [], body.flatMap Utf8.encodeCodePoint⟩

def digestOf? (v : Json) : Option Json := v.member? "digest"

/-- The digests of everything that a manifest is made of: its configuration and its layers. -/
def namedDigests? (manifest : Json) : Option (List Json) := do
  let config ← (manifest.member? "config").bind digestOf?
  let layers ← (manifest.member? "layers").bind Json.items?
  let digests ← layers.mapM digestOf?
  return config :: digests

/-- The digest of the subject that a manifest names. -/
def subject? (manifest : Json) : Option Text :=
  ((manifest.member? "subject").bind digestOf?).bind Json.text?

def hasBlob (r : Registry) (repository : Text) (digest : Json) : Bool :=
  match digest with
  | .text digest => (Assoc.lookup ⟨repository, digest⟩ r.blobs).isSome
  | _ => false

/-- Takes a manifest under a reference and under its digest, and notes it at its subject. -/
def takeManifest (r : Registry) (repository reference : Text) (content : Bytes) :
    RawResponse × Registry :=
  match (Json.readBytes content).toOption with
  | none => (answer 400 "manifest invalid", r)
  | some manifest =>
    match namedDigests? manifest with
    | none => (answer 400 "manifest invalid", r)
    | some digests =>
      if !digests.all (r.hasBlob repository) then (answer 400 "blob unknown", r)
      else
        let digest := sha256Digest content
        let stored : StoredManifest := { content }
        let referenced := Assoc.put ⟨repository, reference⟩ stored r.manifests
        let manifests := Assoc.put ⟨repository, digest⟩ stored referenced
        let referrers :=
          match subject? manifest with
          | none => r.referrers
          | some subject =>
            let known := (Assoc.lookup ⟨repository, subject⟩ r.referrers).getD []
            let listed := if digest ∈ known then known else known ++ [digest]
            Assoc.put ⟨repository, subject⟩ listed r.referrers
        (answer 201, { r with manifests, referrers })

/-- Starts an upload or takes its content, which has to have the digest that is given. -/
def upload (r : Registry) (repository name : Text) (request : Request) : RawResponse × Registry :=
  if request.method = .post then
    let count := r.uploads + 1
    let location := "/v2/" ++ name ++ "/blobs/uploads/" ++ Decimal.ofNat count ++ "?state=x"
    (⟨202, [("Location", location)], []⟩, { r with uploads := count })
  else
    let content := request.data.getD []
    if request.digest = some (sha256Digest content) then
      (answer 201, { r with blobs := Assoc.put ⟨repository, sha256Digest content⟩ content r.blobs })
    else (answer 400 "digest mismatch", r)

def showManifest (m : StoredManifest) : RawResponse :=
  { status := 200
    headers := [("Content-Type", m.mediaType),
      ("Content-Length", Decimal.ofNat m.content.length),
      ("Docker-Content-Digest", sha256Digest m.content)]
    body := m.content }

/-- The response to a request, bodies included. -/
def respond (r : Registry) (request : Request) : RawResponse × Registry :=
  match target? request.url with
  | none => (answer 404 "not found", r)
  | some target =>
    let repository (name : Text) : Text := target.host ++ "/" ++ name
    match query? target.segments with
    | none => (answer 404 "not found", r)
    | some (.upload name) => r.upload (repository name) name request
    | some (.blob name digest) =>
      match Assoc.lookup ⟨repository name, digest⟩ r.blobs with
      | some content => (⟨200, [], content⟩, r)
      | none => (answer 404, r)
    | some (.referrers _ _) =>
      if r.listsReferrers then (answer 200 "\x7b\x7d", r) else (answer 404 "404 page not found", r)
    | some (.manifest name reference) =>
      if request.method = .put then
        r.takeManifest (repository name) reference (request.data.getD [])
      else
        match Assoc.lookup ⟨repository name, reference⟩ r.manifests with
        | some m => (showManifest m, r)
        | none => (answer 404, r)

/-- A response as it is sent: a head request gets no body. -/
def bodyFor (method : Method) (response : RawResponse) : RawResponse :=
  if method = .head then { response with body := [] } else response

def serve : Session.Server Registry := fun r request =>
  let (response, r) := r.respond request
  (.response (bodyFor request.method response), r)

end Registry
end Signet
