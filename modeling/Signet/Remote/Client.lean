import Signet.Entity
import Signet.Exchange.Session
import Signet.Json.Display
import Signet.Json.Document
import Signet.MediaType
import Signet.Program
import Signet.Remote.Error

/-!
# The client of a registry

Manifests and blobs are read and written with one request each, except where an answer is
incomplete: a manifest that cannot be described from its headers is fetched, and a blob is
uploaded with a request that asks for a location and one that sends the content there.
-/
namespace Signet

/-- What applies to every request. -/
structure RemoteOptions where
  insecure : Bool := false
  verifyTls : Bool := true
  username : Option Text := none
  password : Option Text := none
  token : Option Text := none
  timeout : Int := 30
  userAgent : Text := Program.name ++ "/" ++ Program.version
deriving DecidableEq, Repr

namespace RemoteOptions

/-- The token, unless it is empty. -/
def bearer? (o : RemoteOptions) : Option Text := o.token.filter fun t => !t.isEmpty

/-- User name and password; a token takes their place. -/
def credentials? (o : RemoteOptions) : Option Credentials :=
  match o.bearer?, o.username with
  | none, some username => some ⟨username, o.password.getD []⟩
  | _, _ => none

/-- The address of something in a repository. -/
def url (o : RemoteOptions) (repository : Repository) (path : Text) : Text :=
  (if o.insecure then ("http" : Text) else "https") ++ "://" ++ repository.registry ++ "/v2/" ++
    repository.path ++ "/" ++ path

/-- The headers of a request: the agent, the header that the request needs, the token. -/
def headers (o : RemoteOptions) (extra : List (Text × Text)) : List (Text × Text) :=
  let token : List (Text × Text) :=
    match o.bearer? with
    | some token => [("Authorization", "Bearer " ++ token)]
    | none => []
  [(("User-Agent" : Text), o.userAgent)] ++ extra ++ token

def request (o : RemoteOptions) (method : Method) (url : Text) (extra : List (Text × Text) := [])
    (digest : Option Text := none) (data : Option Bytes := none) : Request :=
  { method, url, digest, data
    headers := o.headers extra
    credentials := o.credentials?
    timeout := o.timeout
    verifyTls := o.verifyTls }

end RemoteOptions

/-- Work with a registry. -/
abbrev Remote (α : Type) := Attempt RemoteFailure α

namespace Remote

/-- The registry failed. -/
def fail {α : Type} (e : RegistryError) : Remote α := throw (.registry e)

/-- Sends a request and goes on with what is understood from the response. A missing response
is a failure. -/
def ask {α : Type} (request : Request) (understand : Response → Except RemoteFailure α) :
    Remote α := do
  match ← Attempt.send request with
  | .received r => Attempt.ofExcept (understand r)
  | .failure reason => fail (.unreachable request.method request.url reason)

/-- A response with another status than it should have. Its body is shown, so it has to be read
as text first. -/
def refusal (attempted : Attempted) (r : Response) : RemoteFailure :=
  match r.text with
  | .legible text => .registry (.refused attempted r.status text)
  | .illegible e => .fault (.text e)

/-- The header that asks for manifests. -/
def acceptManifests : List (Text × Text) := [("Accept", Text.join ", " MediaType.manifests)]

def manifestRequest (o : RemoteOptions) (method : Method) (repository : Repository)
    (reference : Text) : Request :=
  o.request method (o.url repository ("manifests/" ++ reference)) acceptManifests

/-- The answer to a request for a manifest has to have one. -/
def checkManifest (repository : Repository) (reference : Text) (r : Response) :
    Except RemoteFailure Unit :=
  if r.status = 404 then .error (.registry (.missing repository reference))
  else if r.status ≠ 200 then
    .error (refusal (.fetchManifest repository reference) r)
  else .ok ()

/-- A media type without its parameters. -/
def bareMediaType (header : Text) : Text := ((header.split ';').headD []).strip

/-- The media type of a fetched manifest: the header, or else what the manifest says, or else
that of an image. -/
def manifestType (r : Response) (manifest : Json.Members) : Text :=
  let header := bareMediaType ((r.header? "Content-Type").getD [])
  if !header.isEmpty then header
  else
    match manifest.get? "mediaType" with
    | some v => if v.isBlank then MediaType.imageManifest else v.display
    | none => MediaType.imageManifest

/-- The manifest in a response, described by its content. -/
def readManifest (repository : Repository) (reference : Text) (r : Response) :
    Except RemoteFailure (Json.Members × Descriptor) := do
  checkManifest repository reference r
  match Json.readBytes r.body with
  | .error (.refused (.integerTooLong digits)) => .error (.fault (.integer (.tooLong digits)))
  | .error _ => .error (.registry (.notJson repository reference))
  | .ok v =>
    match v.members? with
    | none => .error (.registry (.notObject repository reference))
    | some manifest =>
      let descriptor : Descriptor :=
        { mediaType := manifestType r manifest
          digest := sha256Digest r.body
          size := r.body.length }
      .ok (manifest, descriptor)

/-- Fetches a manifest and describes it by its content. -/
def getManifest (o : RemoteOptions) (repository : Repository) (reference : Text) :
    Remote (Json.Members × Descriptor) :=
  ask (manifestRequest o .get repository reference) (readManifest repository reference)

/-- Describes a manifest by the headers of an answer, if they are complete. -/
def describeByHeaders (r : Response) : Option (Except IntegerError Descriptor) :=
  match r.header? "Docker-Content-Digest", r.header? "Content-Type", r.header? "Content-Length" with
  | some digest, some mediaType, some length =>
    if digest.isEmpty || mediaType.isEmpty || !length.isDigits then none
    else
      some ((Decimal.readInt length).map fun size =>
        { mediaType := bareMediaType mediaType, digest, size })
  | _, _, _ => none

/-- The description of a manifest in the headers of a response, none if they are incomplete. -/
def readHeaders (repository : Repository) (reference : Text) (r : Response) :
    Except RemoteFailure (Option Descriptor) := do
  checkManifest repository reference r
  match describeByHeaders r with
  | none => .ok none
  | some (.ok descriptor) => .ok (some descriptor)
  | some (.error e) => .error (.fault (.integer e))

/-- Describes a manifest, fetching it only if the headers are incomplete. -/
def headManifest (o : RemoteOptions) (repository : Repository) (reference : Text) :
    Remote Descriptor := do
  match ← ask (manifestRequest o .head repository reference) (readHeaders repository reference) with
  | some descriptor => return descriptor
  | none => return (← getManifest o repository reference).2

/-- The request that pushes a manifest. -/
def pushRequest (o : RemoteOptions) (repository : Repository) (reference : Text)
    (manifest : Bytes) (mediaType : Text) : Request :=
  o.request .put (o.url repository ("manifests/" ++ reference)) [("Content-Type", mediaType)] none
    (some manifest)

/-- The response to a pushed manifest has to take it. -/
def checkPushed (repository : Repository) (reference : Text) (manifest : Bytes) (r : Response) :
    Except RemoteFailure Text :=
  if r.status = 200 ∨ r.status = 201 ∨ r.status = 202 then .ok (sha256Digest manifest)
  else .error (refusal (.pushManifest repository reference) r)

/-- Pushes a manifest to a tag or a digest. -/
def putManifest (o : RemoteOptions) (repository : Repository) (reference : Text) (manifest : Bytes)
    (mediaType : Text) : Remote Text :=
  ask (pushRequest o repository reference manifest mediaType)
    (checkPushed repository reference manifest)

def blobRequest (o : RemoteOptions) (method : Method) (repository : Repository) (digest : Text) :
    Request :=
  o.request method (o.url repository ("blobs/" ++ digest))

/-- The content in a response. Content under a SHA-256 digest has to have that digest. -/
def readBlob (repository : Repository) (digest : Text) (r : Response) :
    Except RemoteFailure Bytes :=
  if r.status ≠ 200 then
    .error (refusal (.fetchBlob repository digest) r)
  else if digest.startsWith "sha256:" ∧ sha256Digest r.body ≠ digest then
    .error (.registry (.tampered repository digest))
  else .ok r.body

def getBlob (o : RemoteOptions) (repository : Repository) (digest : Text) : Remote Bytes :=
  ask (blobRequest o .get repository digest) (readBlob repository digest)

/-- The answer to the question whether a blob is there. -/
def readPresence (repository : Repository) (digest : Text) (r : Response) :
    Except RemoteFailure Bool :=
  if r.status = 200 then .ok true
  else if r.status = 404 then .ok false
  else .error (refusal (.checkBlob repository digest) r)

def blobExists (o : RemoteOptions) (repository : Repository) (digest : Text) : Remote Bool :=
  ask (blobRequest o .head repository digest) (readPresence repository digest)

def uploadsUrl (o : RemoteOptions) (repository : Repository) : Text :=
  o.url repository "blobs/uploads/"

/-- The address to which content is to be sent. -/
def readLocation (o : RemoteOptions) (repository : Repository) (r : Response) :
    Except RemoteFailure Text :=
  match (r.header? "Location").filter fun l => r.status = 202 && !l.isEmpty with
  | none => .error (refusal (.startUpload repository) r)
  | some location =>
    (Url.join (uploadsUrl o repository) location).mapError fun e => .fault (.location e)

/-- The request that sends the content of a blob. -/
def contentRequest (o : RemoteOptions) (url : Text) (content : Bytes) : Request :=
  o.request .put url [("Content-Type", MediaType.octetStream)] (some (sha256Digest content))
    (some content)

/-- The response to the content of a blob has to take it. -/
def checkUploaded (repository : Repository) (digest : Text) (r : Response) :
    Except RemoteFailure Text :=
  if r.status = 201 ∨ r.status = 204 then .ok digest
  else .error (refusal (.uploadBlob repository digest) r)

/-- Uploads a blob unless it is there. -/
def uploadBlob (o : RemoteOptions) (repository : Repository) (content : Bytes) : Remote Text := do
  let digest := sha256Digest content
  if ← blobExists o repository digest then return digest
  let url ← ask (o.request .post (uploadsUrl o repository)) (readLocation o repository)
  ask (contentRequest o url content) (checkUploaded repository digest)

/-- Whether the registry lists referrers. -/
def readSupport (repository : Repository) (digest : Text) (r : Response) :
    Except RemoteFailure Bool :=
  if r.status = 200 then .ok true
  else if r.status = 404 ∨ r.status = 405 then .ok false
  else .error (refusal (.queryReferrers repository digest) r)

/-- Asks whether the registry lists referrers. -/
def referrersSupported (o : RemoteOptions) (repository : Repository) (digest : Text) :
    Remote Bool :=
  ask (o.request .get (o.url repository ("referrers/" ++ digest))
    [("Accept", MediaType.imageIndex)]) (readSupport repository digest)

end Remote
end Signet
