import Mathlib
import Signet.Proofs.Remote.Image

/-!
# Faulty exchanges

Four replies of a registry lead to a fault instead of a failure of the registry: two to a question
about a manifest, one to the start of an upload, and a refusal of any request whose body cannot be
read as text. Work with a registry ends with a fault exactly if its last exchange leads to that
fault; this passes from the questions of the client through all reading and uploading that is made
of them.

## Main definitions

* `Request.Expects` — the responses that are no refusal of a request.
* `Faulty` — the exchanges that lead to a fault, with that fault.
-/
namespace Signet

/-- The request can be answered with the response. Any other response is a refusal. -/
def Request.Expects (q : Request) (p : Response) : Prop :=
  match q.method with
  | .head => p.status = 200 ∨ p.status = 404
  | .get =>
    p.status = 200 ∨ p.status = 404 ∧ (q.AsksForManifest ∨ q.AsksForIndex) ∨
      p.status = 405 ∧ q.AsksForIndex
  | .post => p.status = 202 ∧ ∃ location, p.header? "Location" = some location ∧ location ≠ []
  | .put =>
    if q.digest = none then p.status = 200 ∨ p.status = 201 ∨ p.status = 202
    else p.status = 201 ∨ p.status = 204

/-- Exchanges that lead to a fault. -/
inductive Faulty : Exchange → Fault → Prop where
  /-- The headers describe a manifest, but their length is no integer or too long. -/
  | length {q : Request} {p : Response} {e : IntegerError} (hasks : q.AsksForManifest)
    (hmethod : q.method = .head) (hstatus : p.status = 200)
    (h : Remote.describeByHeaders p = some (.error e)) : Faulty (q, .received p) (.integer e)
  /-- The manifest has an integer that is too long. -/
  | integer {q : Request} {p : Response} {digits : Nat} (hasks : q.AsksForManifest)
    (hmethod : q.method = .get) (hstatus : p.status = 200)
    (h : Json.readBytes p.body = .error (.refused (.integerTooLong digits))) :
    Faulty (q, .received p) (.integer (.tooLong digits))
  /-- The upload is started at a location that cannot be resolved. -/
  | location {q : Request} {p : Response} {location : Text} {e : UrlError}
    (hmethod : q.method = .post) (hstatus : p.status = 202)
    (hlocation : p.header? "Location" = some location) (hne : location ≠ [])
    (h : Url.join q.url location = .error e) : Faulty (q, .received p) (.location e)
  /-- The request is refused with a body that cannot be read as text. -/
  | text {q : Request} {p : Response} {e : TextError} (hrefused : ¬ q.Expects p)
    (h : p.text = .illegible e) : Faulty (q, .received p) (.text e)

namespace Remote

open Attempt (Yields BreaksOn)

variable {α : Type} {o : RemoteOptions} {repository : Repository} {xs : List Exchange} {f : Fault}

/-! ## What requests expect -/

section Expects

variable {p : Response}

theorem asksForManifest_iff {method : Method} {url : Text} {extra : List (Text × Text)}
    {digest : Option Text} {data : Option Bytes} :
    (o.request method url extra digest data).AsksForManifest ↔
      (("Accept" : Text), Text.join ", " MediaType.manifests) ∈ extra := accept_mem_headers_iff

theorem expects_manifestRequest {method : Method} (h : method.isSafe = true) {reference : Text} :
    (manifestRequest o method repository reference).Expects p ↔
      p.status = 200 ∨ p.status = 404 := by
  cases method with
  | head => exact Iff.rfl
  | get =>
    have hasks : (manifestRequest o .get repository reference).AsksForManifest :=
      asksForManifest_manifestRequest .get reference
    have hfetches : Fetches o repository (· = reference)
        (manifestRequest o .get repository reference) := .manifest h rfl
    have hother := hfetches.not_asksForIndex
    have hmethod : (manifestRequest o .get repository reference).method = .get := rfl
    simp only [Request.Expects, hmethod]
    simp [hasks, hother]
  | post | put => cases h

theorem expects_blobRequest {digest : Text} :
    (blobRequest o .get repository digest).Expects p ↔ p.status = 200 := by
  have hmanifest : ¬ (blobRequest o .get repository digest).AsksForManifest :=
    mt asksForManifest_iff.1 List.not_mem_nil
  have hfetches : Fetches o repository (fun _ => False) (blobRequest o .get repository digest) :=
    .blob digest
  have hindex := hfetches.not_asksForIndex
  have hmethod : (blobRequest o .get repository digest).method = .get := rfl
  simp only [Request.Expects, hmethod]
  simp [hmanifest, hindex]

theorem expects_probeRequest {digest : Text} :
    (probeRequest o repository digest).Expects p ↔
      p.status = 200 ∨ p.status = 404 ∨ p.status = 405 := by
  have hmethod : (probeRequest o repository digest).method = .get := rfl
  simp only [Request.Expects, hmethod]
  simp [asksForIndex_probeRequest]

end Expects

/-! ## Questions -/

/-- Work with a registry that ends with a fault exactly if its last exchange leads to it. -/
abbrev BreaksOnFaulty (f : Fault) (attempt : Remote α) : Prop :=
  BreaksOn (Faulty · f) (· = RemoteFailure.fault f) attempt

/-- A question breaks on the responses that are not understood because of a fault. -/
theorem breaksOn_ask {request : Request} {understand : Response → Except RemoteFailure α}
    (h : ∀ p, understand p = .error (.fault f) ↔ Faulty (request, .received p) f) :
    BreaksOnFaulty f (ask request understand) := by
  intro xs r hxs
  obtain ⟨reply, rfl, rfl⟩ := yields_ask.1 hxs
  cases reply with
  | failure reason =>
    have hfaulty : ¬ Faulty (request, .failure reason) f := by
      intro hf
      cases hf
    simp [understood, hfaulty]
  | received p => simp [← h p]

/-- Unless there is a manifest to read or an upload to start, a response leads to a fault only if it
is a refusal. -/
theorem faulty_iff_refused {q : Request} {p : Response}
    (hmanifest : q.AsksForManifest → p.status ≠ 200) (hmethod : q.method ≠ .post) :
    Faulty (q, .received p) f ↔ ¬ q.Expects p ∧ ∃ e, p.text = .illegible e ∧ f = .text e := by
  constructor
  · intro h
    cases h with
    | length hasks _ hstatus _ => exact absurd hstatus (hmanifest hasks)
    | integer hasks _ hstatus _ => exact absurd hstatus (hmanifest hasks)
    | location hpost _ _ _ _ => exact absurd hpost hmethod
    | text hrefused htext => exact ⟨hrefused, _, htext, rfl⟩
  · rintro ⟨hrefused, e, htext, rfl⟩
    exact .text hrefused htext

/-- A question whose responses are understood as expected or else refused breaks on refusals. -/
theorem breaksOn_ask_of_refusal {request : Request}
    {understand : Response → Except RemoteFailure α} (hasks : ¬ request.AsksForManifest)
    (hmethod : request.method ≠ .post)
    (hexpected : ∀ p f, request.Expects p → understand p ≠ .error (.fault f))
    (hrefused : ∀ p, ¬ request.Expects p →
      ∃ attempted, understand p = .error (refusal attempted p)) :
    BreaksOnFaulty f (ask request understand) := by
  apply breaksOn_ask
  intro p
  rw [faulty_iff_refused (fun h => absurd h hasks) hmethod]
  by_cases hp : request.Expects p
  · simp [hp, hexpected p f hp]
  · obtain ⟨attempted, hattempted⟩ := hrefused p hp
    simp [hp, hattempted]

/-- A question about a manifest breaks on refusals, and on what is read if there is a manifest. -/
theorem breaksOn_ask_of_found {method : Method} (hsafe : method.isSafe = true) {reference : Text}
    {understand : Response → Except RemoteFailure α}
    (h : ∀ p, p.status = 200 → (understand p = .error (.fault f) ↔
      Faulty (manifestRequest o method repository reference, .received p) f)) :
    BreaksOnFaulty f (ask (manifestRequest o method repository reference) fun p =>
      checkManifest repository reference p >>= fun _ => understand p) := by
  have hmethod : method ≠ .post := by
    rintro rfl
    cases hsafe
  apply breaksOn_ask
  intro p
  by_cases hfound : p.status = 200
  · simp [checkManifest, hfound, Bind.bind, Except.bind, ← h p hfound]
  rw [faulty_iff_refused (fun _ => hfound) hmethod, expects_manifestRequest hsafe]
  by_cases hmissing : p.status = 404
  · simp [checkManifest, hmissing, Bind.bind, Except.bind]
  · simp [checkManifest, hfound, hmissing, Bind.bind, Except.bind]

theorem breaksOn_getManifest (reference : Text) :
    BreaksOnFaulty f (getManifest o repository reference) := by
  refine breaksOn_ask_of_found rfl ?_
  intro p hstatus
  have hexpected : (manifestRequest o .get repository reference).Expects p :=
    (expects_manifestRequest rfl).2 (.inl hstatus)
  constructor
  · intro hf
    split at hf
    · rename_i digits hread
      cases hf
      exact .integer (asksForManifest_manifestRequest _ _) rfl hstatus hread
    · cases hf
    · split at hf
      · cases hf
      · cases hf
  · intro h
    cases h with
    | length _ hmethod _ _ => cases hmethod
    | location hmethod _ _ _ _ => cases hmethod
    | text hrefused _ => exact absurd hexpected hrefused
    | integer _ _ _ hread => rw [hread]

theorem breaksOn_readHeaders (reference : Text) :
    BreaksOnFaulty f (ask (manifestRequest o .head repository reference)
      (readHeaders repository reference)) := by
  refine breaksOn_ask_of_found rfl ?_
  intro p hstatus
  have hexpected : (manifestRequest o .head repository reference).Expects p := .inl hstatus
  constructor
  · intro hf
    split at hf
    · cases hf
    · cases hf
    · rename_i e hdescribe
      cases hf
      exact .length (asksForManifest_manifestRequest _ _) rfl hstatus hdescribe
  · intro h
    cases h with
    | integer _ hmethod _ _ => cases hmethod
    | location hmethod _ _ _ _ => cases hmethod
    | text hrefused _ => exact absurd hexpected hrefused
    | length _ _ _ hdescribe => rw [hdescribe]

theorem breaksOn_headManifest (reference : Text) :
    BreaksOnFaulty f (headManifest o repository reference) := by
  refine (breaksOn_readHeaders reference).bind ?_
  intro described
  cases described with
  | some descriptor => exact Attempt.breaksOn_pure _
  | none => exact (breaksOn_getManifest reference).bind fun _ => Attempt.breaksOn_pure _

theorem breaksOn_getBlob (digest : Text) : BreaksOnFaulty f (getBlob o repository digest) := by
  refine breaksOn_ask_of_refusal (mt asksForManifest_iff.1 List.not_mem_nil) nofun ?_ ?_
  · intro p f hp
    rw [readBlob, if_neg (by simpa using expects_blobRequest.1 hp)]
    split_ifs <;> simp
  · intro p hp
    exact ⟨_, if_pos (mt expects_blobRequest.2 hp)⟩

theorem breaksOn_referrersSupported (digest : Text) :
    BreaksOnFaulty f (referrersSupported o repository digest) := by
  have hextra : (("Accept" : Text), Text.join ", " MediaType.manifests) ∉
      [(("Accept" : Text), MediaType.imageIndex)] := by decide +kernel
  change BreaksOnFaulty f (ask (probeRequest o repository digest) (readSupport repository digest))
  refine breaksOn_ask_of_refusal (mt asksForManifest_iff.1 hextra) nofun ?_ ?_
  · intro p f hp
    rw [expects_probeRequest] at hp
    unfold readSupport
    split_ifs <;> simp_all
  · intro p hp
    rw [expects_probeRequest] at hp
    push Not at hp
    refine ⟨.queryReferrers repository digest, ?_⟩
    simp [readSupport, hp]

/-! ## Reading images -/

theorem breaksOn_fail (e : RegistryError) : BreaksOnFaulty f (fail e : Remote α) :=
  Attempt.breaksOn_throw (by simp)

theorem breaksOn_loadEach (tag : Text) (items : List Json) :
    BreaksOnFaulty f (loadEach o repository tag items) := by
  have hlayer (v : Json) : BreaksOnFaulty f (loadLayer o repository tag v) := by
    rw [loadLayer]
    split
    · exact breaksOn_fail _
    · split
      · exact (breaksOn_getBlob _).bind fun _ => Attempt.breaksOn_pure _
      · exact breaksOn_fail _
  induction items with
  | nil => exact Attempt.breaksOn_pure _
  | cons v rest ih =>
    exact (hlayer v).bind fun _ => ih.bind fun _ => Attempt.breaksOn_pure _

theorem breaksOn_loadLayers (tag : Text) : BreaksOnFaulty f (loadLayers o repository tag) := by
  have hmanifest : BreaksOnFaulty f (tagManifest? o repository tag) := by
    refine ((breaksOn_getManifest tag).bind fun _ => Attempt.breaksOn_pure _).recover ?_
    intro e
    cases e with
    | fault f => simp
    | registry e => cases e <;> simp
  apply hmanifest.bind
  intro manifest
  cases manifest with
  | none => exact Attempt.breaksOn_pure _
  | some members =>
    dsimp only
    split
    · exact breaksOn_fail _
    · exact breaksOn_loadEach tag _

theorem breaksOn_tagFor {artifact : Artifact} (h : artifact.hex? ≠ none) (suffix : Text) :
    BreaksOnFaulty f (tagFor artifact suffix) := by
  obtain ⟨hex, hhex⟩ := Option.ne_none_iff_exists'.1 h
  rw [tagFor, Artifact.tag?, hhex]
  exact Attempt.breaksOn_pure _

theorem breaksOn_signedEntity {artifact : Artifact} (h : artifact.hex? ≠ none)
    (suffixes : List Text) : BreaksOnFaulty f (signedEntity o artifact suffixes) := by
  have hkind (kind : Kind) : BreaksOnFaulty f (loadKind o artifact suffixes kind) := by
    rw [loadKind]
    split
    · exact (breaksOn_tagFor h _).bind fun _ => breaksOn_loadLayers _
    · exact Attempt.breaksOn_pure _
  exact (breaksOn_headManifest _).bind fun _ =>
    (hkind .signature).bind fun _ => (hkind .attestation).bind fun _ => Attempt.breaksOn_pure _

theorem breaksOn_subjectDescriptor (artifact : Artifact) (entity : Option SignedEntity) :
    BreaksOnFaulty f (subjectDescriptor o artifact entity) := by
  rw [subjectDescriptor_eq]
  refine (breaksOn_referrersSupported _).bind ?_
  intro supported
  have hdescriptor : BreaksOnFaulty f
      (((entity.filter SignedEntity.known).bind SignedEntity.descriptor).elim
        (headManifest o artifact.repository artifact.digest) pure) := by
    cases (entity.filter SignedEntity.known).bind SignedEntity.descriptor with
    | none => exact breaksOn_headManifest _
    | some descriptor => exact Attempt.breaksOn_pure descriptor
  cases supported with
  | true => exact hdescriptor
  | false => exact (breaksOn_fail _).bind fun _ => hdescriptor

/-! ## Uploading -/

/-- A location to start from is understood or cannot be resolved; without one, the upload is
refused. -/
theorem readLocation_cases (o : RemoteOptions) (repository : Repository) (p : Response) :
    (∃ location, p.header? "Location" = some location ∧ p.status = 202 ∧ location ≠ [] ∧
      readLocation o repository p =
        (Url.join (uploadsUrl o repository) location).mapError fun e => .fault (.location e)) ∨
    (¬ (startRequest o repository).Expects p ∧
      readLocation o repository p = .error (refusal (.startUpload repository) p)) := by
  cases hfilter : (p.header? "Location").filter fun l => p.status = 202 && !l.isEmpty with
  | none =>
    refine .inr ⟨?_, by rw [readLocation, hfilter]⟩
    rintro ⟨hstatus, location, hheader, hne⟩
    simp [hheader, hstatus, hne] at hfilter
  | some location =>
    obtain ⟨hheader, hgood⟩ := Option.filter_eq_some_iff.1 hfilter
    simp only [Bool.and_eq_true, decide_eq_true_eq, Bool.not_eq_true', List.isEmpty_eq_false_iff]
      at hgood
    exact .inl ⟨location, hheader, hgood.1, hgood.2, by rw [readLocation, hfilter]⟩

theorem breaksOn_readLocation :
    BreaksOnFaulty f (ask (startRequest o repository) (readLocation o repository)) := by
  apply breaksOn_ask
  intro p
  rcases readLocation_cases o repository p with
    ⟨location, hheader, hstatus, hne, hread⟩ | ⟨hrefused, hread⟩
  · rw [hread]
    constructor
    · intro hf
      cases hjoin : Url.join (uploadsUrl o repository) location with
      | ok url =>
        rw [hjoin] at hf
        cases hf
      | error e =>
        rw [hjoin] at hf
        cases hf
        exact .location rfl hstatus hheader hne hjoin
    · intro h
      cases h with
      | length _ hmethod _ _ => cases hmethod
      | integer _ hmethod _ _ => cases hmethod
      | text hrefused _ => exact absurd ⟨hstatus, location, hheader, hne⟩ hrefused
      | location _ _ hheader' _ hjoin =>
        cases hheader.symm.trans hheader'
        have hjoin' : Url.join (uploadsUrl o repository) location = .error _ := hjoin
        rw [hjoin']
        rfl
  · rw [hread, Except.error.injEq, refusal_eq_fault_iff]
    constructor
    · rintro ⟨e, htext, rfl⟩
      exact .text hrefused htext
    · intro h
      cases h with
      | length _ hmethod _ _ => cases hmethod
      | integer _ hmethod _ _ => cases hmethod
      | text _ htext => exact ⟨_, htext, rfl⟩
      | location _ hstatus hheader hne _ => exact absurd ⟨hstatus, _, hheader, hne⟩ hrefused

theorem breaksOn_uploadBlob (content : Bytes) :
    BreaksOnFaulty f (uploadBlob o repository content) := by
  have hexists : BreaksOnFaulty f (blobExists o repository (sha256Digest content)) := by
    refine breaksOn_ask_of_refusal (mt asksForManifest_iff.1 List.not_mem_nil) nofun ?_ ?_
    · rintro p f (hp | hp) <;> simp [readPresence, hp]
    · intro p hp
      obtain ⟨hfound, hmissing⟩ := not_or.1 hp
      exact ⟨.checkBlob repository (sha256Digest content), by
        rw [readPresence, if_neg hfound, if_neg hmissing]⟩
  have hsent (url : Text) : BreaksOnFaulty f (ask (contentRequest o url content)
      (checkUploaded repository (sha256Digest content))) := by
    have hextra : (("Accept" : Text), Text.join ", " MediaType.manifests) ∉
        [(("Content-Type" : Text), MediaType.octetStream)] := by decide +kernel
    refine breaksOn_ask_of_refusal (mt asksForManifest_iff.1 hextra) nofun ?_ ?_
    · intro p f hp
      have hstatus : p.status = 201 ∨ p.status = 204 := hp
      simp [checkUploaded, hstatus]
    · intro p hp
      exact ⟨_, if_neg hp⟩
  apply hexists.bind
  intro present
  cases present with
  | true => exact Attempt.breaksOn_pure _
  | false => exact breaksOn_readLocation.bind hsent

theorem breaksOn_uploadParts (config : Bytes) (layers : List Layer) :
    BreaksOnFaulty f (uploadParts o repository config layers) := by
  refine (breaksOn_uploadBlob _).bind ?_
  intro _
  induction layers with
  | nil => exact Attempt.breaksOn_pure _
  | cons layer rest ih => exact (breaksOn_uploadBlob _).bind fun _ => ih

theorem breaksOn_putManifest (reference : Text) (manifest : Bytes) {mediaType : Text} :
    BreaksOnFaulty f (putManifest o repository reference manifest mediaType) := by
  have hextra : (("Accept" : Text), Text.join ", " MediaType.manifests) ∉
      [(("Content-Type" : Text), mediaType)] := by
    have hname : ("Accept" : Text) ≠ "Content-Type" := by decide
    simp [hname]
  refine breaksOn_ask_of_refusal (mt asksForManifest_iff.1 hextra) nofun ?_ ?_
  · intro p f hp
    have hstatus : p.status = 200 ∨ p.status = 201 ∨ p.status = 202 := hp
    simp [checkPushed, hstatus]
  · intro p hp
    exact ⟨_, if_neg hp⟩

/-- A value that cannot be written is a fault of its own. -/
theorem breaksOn_writeImage (h : ∀ e, f ≠ .unwritable e) (layers : List Layer)
    (placement : Placement) : BreaksOnFaulty f (writeImage o repository layers placement) := by
  have hcanonical (v : Json) : BreaksOnFaulty f (canonical v) := by
    rw [canonical]
    cases v.canonical with
    | ok bytes => exact Attempt.breaksOn_pure _
    | error e => exact Attempt.breaksOn_throw (by simpa using (h e).symm)
  rw [writeImage_eq]
  exact (hcanonical _).bind fun _ => (breaksOn_uploadParts _ _).bind fun _ =>
    (hcanonical _).bind fun _ => breaksOn_putManifest _ _

/-- No exchange leads to a value that cannot be written. -/
theorem ne_unwritable {attempt : Remote α} {e : CanonicalFault}
    (h : BreaksOnFaulty (.unwritable e) attempt) {r : Except RemoteFailure α}
    (hxs : Yields attempt xs r) : r ≠ .error (.fault (.unwritable e)) := by
  intro hr
  obtain ⟨x, -, hfaulty⟩ := (h hxs).1 ⟨_, hr, rfl⟩
  cases hfaulty

end Remote
end Signet
