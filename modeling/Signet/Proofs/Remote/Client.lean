import Mathlib
import Signet.Proofs.Exchange.Course
import Signet.Remote.Client

/-!
# Courses of the client

Every operation of the client asks one question or a few, one after the other. A question
has one exchange, and its result is decided by the reply. The upload of a blob is the only
operation that changes anything before a manifest is pushed; its courses are listed, and
one that succeeds leaves an acknowledgement of the blob.
-/
namespace Signet

namespace Request

/-- The request only reads. -/
def Reads (q : Request) : Prop := q.method.isSafe = true ∧ q.digest = none

/-- The request pushes a manifest: it puts something without naming its digest. -/
def PushesManifest (q : Request) : Prop := q.method = .put ∧ q.digest = none

/-- The request asks for a manifest. -/
def AsksForManifest (q : Request) : Prop :=
  (("Accept" : Text), Text.join ", " MediaType.manifests) ∈ q.headers

/-- The request asks for an index of manifests. -/
def AsksForIndex (q : Request) : Prop := (("Accept" : Text), MediaType.imageIndex) ∈ q.headers

theorem Reads.not_pushesManifest {q : Request} (h : q.Reads) : ¬ q.PushesManifest := by
  rintro ⟨hmethod, -⟩
  have hsafe := h.1
  rw [hmethod] at hsafe
  cases hsafe

end Request

namespace Remote

open Attempt (Yields Sends)

variable {α : Type} {o : RemoteOptions} {repository : Repository} {xs : List Exchange}

/-! ## Questions -/

/-- What is made of a reply. -/
def understood (request : Request) (understand : Response → Except RemoteFailure α) :
    Reply → Except RemoteFailure α
  | .received r => understand r
  | .failure reason => .error (.registry (.unreachable request.method request.url reason))

section Questions

variable {request : Request} {understand : Response → Except RemoteFailure α}

@[simp] theorem understood_received (r : Response) :
    understood request understand (.received r) = understand r := rfl

theorem understood_eq_ok_iff {reply : Reply} {a : α} :
    understood request understand reply = .ok a ↔
      ∃ r, reply = .received r ∧ understand r = .ok a := by
  cases reply <;> simp [understood]

/-- A question is one exchange, and the reply decides the result. -/
theorem yields_ask {r : Except RemoteFailure α} :
    Yields (ask request understand) xs r ↔
      ∃ reply, xs = [(request, reply)] ∧ r = understood request understand reply := by
  simp only [ask, Attempt.yields_bind, Attempt.yields_send]
  constructor
  · rintro (⟨e, ⟨reply, rfl, hreply⟩, -⟩ | ⟨_, zs, reply, rfl, ⟨_, rfl, hreply⟩, hr⟩)
    · cases hreply
    · cases hreply
      cases reply with
      | received p =>
        obtain ⟨rfl, rfl⟩ := hr
        exact ⟨.received p, rfl, rfl⟩
      | failure reason =>
        obtain ⟨rfl, rfl⟩ := hr
        exact ⟨.failure reason, rfl, rfl⟩
  · rintro ⟨reply, rfl, rfl⟩
    refine .inr ⟨[(request, reply)], [], reply, rfl, ⟨reply, rfl, rfl⟩, ?_⟩
    cases reply with
    | received p => exact ⟨rfl, rfl⟩
    | failure reason => exact ⟨rfl, rfl⟩

theorem sends_ask {P : Request → Prop} (h : P request) : Sends P (ask request understand) := by
  intro xs r hxs x hx
  obtain ⟨reply, rfl, -⟩ := yields_ask.1 hxs
  rw [List.mem_singleton] at hx
  rwa [hx]

end Questions

/-! ## Refusals -/

@[simp] theorem refusal_eq_registry_iff {attempted : Attempted} {p : Response} {e : RegistryError} :
    refusal attempted p = .registry e ↔
      ∃ t, p.text = .legible t ∧ e = .refused attempted p.status t := by
  unfold refusal
  split <;> simp_all [eq_comm]

@[simp] theorem refusal_eq_fault_iff {attempted : Attempted} {p : Response} {f : Fault} :
    refusal attempted p = .fault f ↔ ∃ e, p.text = .illegible e ∧ f = .text e := by
  unfold refusal
  split <;> simp_all [eq_comm]

/-! ## Answers that are understood -/

theorem checkManifest_eq_ok_iff {reference : Text} {p : Response} :
    checkManifest repository reference p = .ok () ↔ p.status = 200 := by
  unfold checkManifest
  split_ifs <;> simp_all

/-- A manifest that is there is understood if it is a JSON object. -/
theorem readManifest_eq_ok_iff {reference : Text} {p : Response} (h : p.status = 200)
    {members : Json.Members} {d : Descriptor} :
    readManifest repository reference p = .ok (members, d) ↔
      Json.readBytes p.body = .ok (.object members) ∧
        d = { mediaType := manifestType p members
              digest := sha256Digest p.body
              size := p.body.length } := by
  rw [readManifest, checkManifest_eq_ok_iff.2 h]
  dsimp only [Bind.bind, Except.bind]
  split
  · rename_i hread
    simp [hread]
  · rename_i hread
    simp [hread]
  · rename_i v hread
    rw [hread]
    cases v <;> simp [Json.members?]
    rintro rfl
    exact eq_comm

theorem readManifest_ne_missing {reference reference' : Text} {repository' : Repository}
    {p : Response} (h : p.status = 200) :
    readManifest repository reference p ≠
      .error (.registry (.missing repository' reference')) := by
  rw [readManifest, checkManifest_eq_ok_iff.2 h]
  dsimp only [Bind.bind, Except.bind]
  split
  · simp
  · simp
  · split <;> simp

theorem status_of_readManifest {reference : Text} {p : Response}
    {found : Json.Members × Descriptor} (h : readManifest repository reference p = .ok found) :
    p.status = 200 := by
  cases hcheck : checkManifest repository reference p with
  | ok u => exact checkManifest_eq_ok_iff.1 hcheck
  | error e =>
    rw [readManifest, hcheck] at h
    cases h

theorem readBlob_eq_ok_iff {digest : Text} {p : Response} {content : Bytes} :
    readBlob repository digest p = .ok content ↔
      p.status = 200 ∧ (digest.startsWith "sha256:" = true → sha256Digest p.body = digest) ∧
        p.body = content := by
  unfold readBlob
  split_ifs with hstatus htampered
  · simp [hstatus]
  · simp [htampered]
  · simp only [not_and, not_not] at htampered
    simp only [ne_eq, not_not] at hstatus
    simpa [hstatus] using fun _ => htampered

/-! ## Operations that read -/

theorem reads_manifestRequest {method : Method} (h : method.isSafe = true) (reference : Text) :
    (manifestRequest o method repository reference).Reads := ⟨h, rfl⟩

theorem reads_blobRequest {method : Method} (h : method.isSafe = true) (digest : Text) :
    (blobRequest o method repository digest).Reads := ⟨h, rfl⟩

/-- What a request asks for is in the header that it needs: the agent and the token are other
headers. -/
theorem accept_mem_headers_iff {extra : List (Text × Text)} {type : Text} :
    (("Accept" : Text), type) ∈ o.headers extra ↔ (("Accept" : Text), type) ∈ extra := by
  have hagent : ("Accept" : Text) ≠ "User-Agent" := by decide
  have htoken : ("Accept" : Text) ≠ "Authorization" := by decide
  simp only [RemoteOptions.headers, List.mem_append, List.mem_singleton, Prod.mk.injEq, hagent,
    false_and, false_or, or_iff_left_iff_imp]
  split <;> simp [htoken]

theorem asksForManifest_manifestRequest (method : Method) (reference : Text) :
    (manifestRequest o method repository reference).AsksForManifest :=
  accept_mem_headers_iff.2 (List.mem_singleton_self _)

/-- The request fetches a manifest with one of the references, or a blob. -/
inductive Fetches (o : RemoteOptions) (repository : Repository) (references : Text → Prop) :
    Request → Prop where
  | manifest {method : Method} {reference : Text} (hmethod : method.isSafe = true)
    (h : references reference) :
    Fetches o repository references (manifestRequest o method repository reference)
  | blob (digest : Text) : Fetches o repository references (blobRequest o .get repository digest)

section Fetches

variable {references : Text → Prop} {q : Request}

theorem Fetches.reads (h : Fetches o repository references q) : q.Reads := by
  cases h with
  | manifest hmethod _ => exact reads_manifestRequest hmethod _
  | blob digest => exact reads_blobRequest rfl digest

theorem Fetches.mono (h : Fetches o repository references q) {references' : Text → Prop}
    (himp : ∀ t, references t → references' t) : Fetches o repository references' q := by
  cases h with
  | manifest hmethod h => exact .manifest hmethod (himp _ h)
  | blob digest => exact .blob digest

theorem Fetches.not_asksForIndex (h : Fetches o repository references q) : ¬ q.AsksForIndex := by
  intro hasks
  have hindex : (("Accept" : Text), MediaType.imageIndex) ∉ acceptManifests := by decide +kernel
  cases h with
  | manifest _ _ => exact hindex (accept_mem_headers_iff.1 hasks)
  | blob _ => cases accept_mem_headers_iff.1 hasks

theorem fetches_getManifest (reference : Text) :
    Sends (Fetches o repository (· = reference)) (getManifest o repository reference) :=
  sends_ask (.manifest rfl rfl)

theorem fetches_headManifest (reference : Text) :
    Sends (Fetches o repository (· = reference)) (headManifest o repository reference) := by
  refine (sends_ask (.manifest rfl rfl)).bind ?_
  intro described
  cases described with
  | some descriptor => exact Attempt.sends_pure _
  | none => exact (fetches_getManifest reference).bind fun _ => Attempt.sends_pure _

theorem fetches_getBlob (digest : Text) :
    Sends (Fetches o repository references) (getBlob o repository digest) :=
  sends_ask (.blob digest)

end Fetches

theorem sends_getManifest (reference : Text) :
    Sends Request.Reads (getManifest o repository reference) :=
  (fetches_getManifest reference).mono fun _ => Fetches.reads

theorem sends_headManifest (reference : Text) :
    Sends Request.Reads (headManifest o repository reference) :=
  (fetches_headManifest reference).mono fun _ => Fetches.reads

theorem sends_getBlob (digest : Text) : Sends Request.Reads (getBlob o repository digest) :=
  sends_ask (reads_blobRequest rfl digest)

def probeRequest (o : RemoteOptions) (repository : Repository) (digest : Text) : Request :=
  o.request .get (o.url repository ("referrers/" ++ digest)) [("Accept", MediaType.imageIndex)]

theorem asksForIndex_probeRequest (digest : Text) :
    (probeRequest o repository digest).AsksForIndex :=
  accept_mem_headers_iff.2 (List.mem_singleton_self _)

theorem sends_referrersSupported (digest : Text) :
    Sends Request.Reads (referrersSupported o repository digest) :=
  sends_ask ⟨rfl, rfl⟩

/-! ## Uploads of blobs -/

def startRequest (o : RemoteOptions) (repository : Repository) : Request :=
  o.request .post (uploadsUrl o repository)

/-- The courses of an upload, with their results. -/
inductive UploadCourse (o : RemoteOptions) (repository : Repository) (content : Bytes) :
    List Exchange → Except RemoteFailure Text → Prop where
  /-- The blob is there. -/
  | present {p : Response} (h : p.status = 200) :
    UploadCourse o repository content
      [(blobRequest o .head repository (sha256Digest content), .received p)]
      (.ok (sha256Digest content))
  /-- It is not told whether the blob is there. -/
  | untold {reply : Reply} {e : RemoteFailure}
    (h : understood (blobRequest o .head repository (sha256Digest content))
      (readPresence repository (sha256Digest content)) reply = .error e) :
    UploadCourse o repository content
      [(blobRequest o .head repository (sha256Digest content), reply)] (.error e)
  /-- The upload is not started. -/
  | notStarted {p : Response} {reply : Reply} {e : RemoteFailure} (hp : p.status = 404)
    (h : understood (startRequest o repository) (readLocation o repository) reply = .error e) :
    UploadCourse o repository content
      [(blobRequest o .head repository (sha256Digest content), .received p),
       (startRequest o repository, reply)] (.error e)
  /-- The content is sent to the location that was told. -/
  | sent {p start : Response} {url : Text} {reply : Reply} (hp : p.status = 404)
    (h : readLocation o repository start = .ok url) :
    UploadCourse o repository content
      [(blobRequest o .head repository (sha256Digest content), .received p),
       (startRequest o repository, .received start), (contentRequest o url content, reply)]
      (understood (contentRequest o url content)
        (checkUploaded repository (sha256Digest content)) reply)

theorem readPresence_eq_ok_iff {digest : Text} {p : Response} {b : Bool} :
    readPresence repository digest p = .ok b ↔ p.status = if b then 200 else 404 := by
  unfold readPresence
  split_ifs <;> simp_all

theorem uploadCourse {content : Bytes} {r : Except RemoteFailure Text}
    (h : Yields (uploadBlob o repository content) xs r) :
    UploadCourse o repository content xs r := by
  rcases Attempt.yields_bind.1 h with ⟨e, he, rfl⟩ | ⟨_, zs, b, rfl, hb, h⟩
  · obtain ⟨reply, rfl, hreply⟩ := yields_ask.1 he
    exact .untold hreply.symm
  obtain ⟨reply, rfl, hreply⟩ := yields_ask.1 hb
  obtain ⟨p, rfl, hp⟩ := understood_eq_ok_iff.1 hreply.symm
  rw [readPresence_eq_ok_iff] at hp
  cases b with
  | true =>
    obtain ⟨rfl, rfl⟩ := h
    exact .present hp
  | false =>
    rcases Attempt.yields_bind.1 h with ⟨e, he, rfl⟩ | ⟨_, ws, url, rfl, hurl, hsent⟩
    · obtain ⟨reply, rfl, hreply⟩ := yields_ask.1 he
      exact .notStarted hp hreply.symm
    · obtain ⟨reply, rfl, hreply⟩ := yields_ask.1 hurl
      obtain ⟨start, rfl, hstart⟩ := understood_eq_ok_iff.1 hreply.symm
      obtain ⟨reply, rfl, rfl⟩ := yields_ask.1 hsent
      exact .sent hp hstart

/-- The request belongs to the upload of a blob. -/
inductive Uploads (o : RemoteOptions) (repository : Repository) : Request → Prop where
  | presence (digest : Text) : Uploads o repository (blobRequest o .head repository digest)
  | start : Uploads o repository (startRequest o repository)
  | content (url : Text) (content : Bytes) : Uploads o repository (contentRequest o url content)

theorem Uploads.not_pushesManifest {q : Request} (h : Uploads o repository q) :
    ¬ q.PushesManifest := by
  cases h with
  | presence digest => exact (reads_blobRequest rfl digest).not_pushesManifest
  | start =>
    rintro ⟨hmethod, -⟩
    cases hmethod
  | content url content =>
    rintro ⟨-, hdigest⟩
    cases hdigest

/-- An upload asks for content of no particular type. -/
theorem Uploads.accept_notMem {q : Request} (h : Uploads o repository q) (type : Text) :
    (("Accept" : Text), type) ∉ q.headers := by
  have hcontent : ("Accept" : Text) ≠ "Content-Type" := by decide
  intro haccept
  cases h with
  | presence _ | start => cases accept_mem_headers_iff.1 haccept
  | content _ _ => simpa [hcontent] using accept_mem_headers_iff.1 haccept

theorem uploads_uploadBlob (content : Bytes) :
    Sends (Uploads o repository) (uploadBlob o repository content) := by
  intro xs r hxs x hx
  cases uploadCourse hxs with
  | present _ | untold _ =>
    rw [List.mem_singleton] at hx
    exact hx ▸ .presence _
  | notStarted _ _ =>
    simp only [List.mem_cons, List.not_mem_nil, or_false] at hx
    rcases hx with rfl | rfl
    · exact .presence _
    · exact .start
  | sent _ _ =>
    simp only [List.mem_cons, List.not_mem_nil, or_false] at hx
    rcases hx with rfl | rfl | rfl
    · exact .presence _
    · exact .start
    · exact .content _ _

/-- The registry acknowledged the blob with the digest: it said that the blob is there, or it
took content with that digest at the location that it told right before. -/
inductive Acknowledged (o : RemoteOptions) (repository : Repository) (digest : Text)
    (xs : List Exchange) : Prop where
  | present {q : Request} {p : Response} (hmem : (q, .received p) ∈ xs) (hmethod : q.method = .head)
    (hurl : q.url = o.url repository ("blobs/" ++ digest)) (hstatus : p.status = 200)
  | taken {q q' : Request} {p p' : Response} {ys zs : List Exchange} {location : Text}
    {content : Bytes} (hxs : xs = ys ++ (q, .received p) :: (q', .received p') :: zs)
    (hpost : q.method = .post) (hurl : q.url = o.url repository "blobs/uploads/")
    (hstatus : p.status = 202) (hlocation : p.header? "Location" = some location)
    (hne : location ≠ []) (hjoin : Url.join q.url location = .ok q'.url) (hput : q'.method = .put)
    (hdigest : q'.digest = some digest) (hdata : q'.data = some content)
    (hcontent : sha256Digest content = digest) (hstatus' : p'.status = 201 ∨ p'.status = 204)

/-- More exchanges before and after take no acknowledgement back. -/
theorem Acknowledged.append {digest : Text} (h : Acknowledged o repository digest xs)
    (before after : List Exchange) : Acknowledged o repository digest (before ++ xs ++ after) := by
  cases h with
  | present hmem hmethod hurl hstatus => exact .present (by simp [hmem]) hmethod hurl hstatus
  | @taken q q' p p' ys zs location content hxs hpost hurl hstatus hlocation hne hjoin hput hdigest
      hdata hcontent hstatus' =>
    have hxs' : before ++ xs ++ after =
        (before ++ ys) ++ (q, .received p) :: (q', .received p') :: (zs ++ after) := by
      simp [hxs]
    exact .taken hxs' hpost hurl hstatus hlocation hne hjoin hput hdigest hdata hcontent hstatus'

theorem readLocation_eq_ok_iff {p : Response} {url : Text} :
    readLocation o repository p = .ok url ↔
      ∃ location, p.header? "Location" = some location ∧ p.status = 202 ∧ location ≠ [] ∧
        Url.join (uploadsUrl o repository) location = .ok url := by
  rw [readLocation]
  constructor
  · intro h
    split at h
    · cases h
    · rename_i location hfilter
      rw [Option.filter_eq_some_iff] at hfilter
      obtain ⟨hheader, hgood⟩ := hfilter
      simp only [Bool.and_eq_true, decide_eq_true_eq, Bool.not_eq_true', List.isEmpty_eq_false_iff]
        at hgood
      refine ⟨location, hheader, hgood.1, hgood.2, ?_⟩
      cases hjoin : Url.join (uploadsUrl o repository) location with
      | error e =>
        rw [hjoin] at h
        cases h
      | ok joined =>
        rw [hjoin] at h
        cases h
        rfl
  · rintro ⟨location, hheader, hstatus, hne, hjoin⟩
    have hfilter : ((p.header? "Location").filter fun l => p.status = 202 && !l.isEmpty) =
        some location := by
      simp [hheader, hstatus, hne]
    simp only [hfilter, hjoin]
    rfl

theorem checkUploaded_eq_ok_iff {digest d : Text} {p : Response} :
    checkUploaded repository digest p = .ok d ↔ (p.status = 201 ∨ p.status = 204) ∧ d = digest := by
  unfold checkUploaded
  split_ifs with h <;> simp [h, eq_comm]

/-- An upload that succeeds gives the digest, and the registry acknowledged the blob. -/
theorem acknowledged_of_uploadBlob {content : Bytes} {digest : Text}
    (h : Yields (uploadBlob o repository content) xs (.ok digest)) :
    digest = sha256Digest content ∧ Acknowledged o repository (sha256Digest content) xs := by
  generalize hr : (Except.ok digest : Except RemoteFailure Text) = r at h
  cases uploadCourse h with
  | present hp =>
    cases hr
    exact ⟨rfl, .present (List.mem_singleton_self _) rfl rfl hp⟩
  | untold _ | notStarted _ _ => cases hr
  | @sent p start url reply _ hstart =>
    obtain ⟨p', rfl, hp'⟩ := understood_eq_ok_iff.1 hr.symm
    rw [checkUploaded_eq_ok_iff] at hp'
    obtain ⟨location, hheader, hstatus, hne, hjoin⟩ := readLocation_eq_ok_iff.1 hstart
    refine ⟨hp'.2, ?_⟩
    have hxs (x y z : Exchange) : [x, y, z] = [x] ++ y :: z :: [] := rfl
    exact .taken (hxs _ _ _) rfl rfl hstatus hheader hne hjoin rfl rfl rfl rfl hp'.1

end Remote
end Signet
