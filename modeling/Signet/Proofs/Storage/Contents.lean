import Mathlib
import Signet.Proofs.Exchange.Pair
import Signet.Proofs.Storage.Absence

/-!
# What manifests determine

Two resolutions of an artifact against servers that answer the requests for manifests alike send
the same requests and read layers of the same types and annotations, one for each item of the
manifests. Their contents are the replies to requests for blobs, which are checked against
SHA-256 digests only, so they agree exactly if the replies under other digests do.

## Main definitions

* `Remote.ManifestRequest` — a request for a manifest of a repository.
* `Remote.BlobsAgree` — two exchanges do not tell unchecked contents of different SHA-256 apart.
* `Remote.ReadAlike` — what two readings of layers have in common.
* `Storing.ResolvedAlike` — what two resolutions have in common.
-/
namespace Signet

namespace Remote

open Session (Alike)

variable {o : RemoteOptions} {repository : Repository} {xs xs' ys ys' : List Exchange}
  {layers layers' more more' : List Layer}

/-- The request asks for a manifest of the repository. -/
def ManifestRequest (o : RemoteOptions) (repository : Repository) (q : Request) : Prop :=
  ∃ method reference, q = manifestRequest o method repository reference

/-- The layers have the same type and the same annotations. -/
structure SameLabel (layer layer' : Layer) : Prop where
  mediaType : layer.mediaType = layer'.mediaType
  annotations : layer.annotations = layer'.annotations

/-- The contents of the layers have the same SHA-256 digest. -/
def SameContent (layer layer' : Layer) : Prop :=
  sha256Digest layer.content = sha256Digest layer'.content

/-- If the exchanges fetch a blob under one digest that is no SHA-256 digest, what they fetch has
the same SHA-256 digest. -/
def BlobsAgree (o : RemoteOptions) (repository : Repository) (x x' : Exchange) : Prop :=
  ∀ digest p p', x = (blobRequest o .get repository digest, .received p) →
    x' = (blobRequest o .get repository digest, .received p') →
    digest.startsWith "sha256:" = false → sha256Digest p.body = sha256Digest p'.body

theorem blobsAgree_refl (x : Exchange) : BlobsAgree o repository x x := by
  intro digest p p' hx hx' _
  rw [hx] at hx'
  obtain rfl : p = p' := Reply.received.inj (Prod.mk.inj hx').2
  rfl

/-! ## Two readings -/

/-- The readings send the same requests and give layers with the same labels; the contents agree
exactly if the replies do that no digest is checked for. -/
structure ReadAlike (o : RemoteOptions) (repository : Repository) (xs xs' : List Exchange)
    (layers layers' : List Layer) : Prop where
  requests : xs.map Prod.fst = xs'.map Prod.fst
  labels : layers.Forall₂ SameLabel layers'
  contents_iff : layers.Forall₂ SameContent layers' ↔ xs.Forall₂ (BlobsAgree o repository) xs'

/-- Related lists are related in both parts. -/
theorem forall₂_append_iff {α β : Type} {R : α → β → Prop} {a b : List α} {a' b' : List β}
    (h : a.length = a'.length) :
    (a ++ b).Forall₂ R (a' ++ b') ↔ a.Forall₂ R a' ∧ b.Forall₂ R b' := by
  induction a generalizing a' with
  | nil =>
    obtain rfl := List.length_eq_zero_iff.1 h.symm
    simp
  | cons x a ih =>
    cases a' with
    | nil => cases h
    | cons x' a' =>
      have hlength : a.length = a'.length := Nat.succ.inj h
      simp only [List.cons_append, List.forall₂_cons, ih hlength, and_assoc]

theorem ReadAlike.length_eq (h : ReadAlike o repository xs xs' layers layers') :
    xs.length = xs'.length := by
  simpa using congrArg List.length h.requests

/-- The same exchanges without layers. -/
theorem readAlike_refl (xs : List Exchange) : ReadAlike o repository xs xs [] [] where
  requests := rfl
  labels := .nil
  contents_iff := iff_of_true .nil (List.forall₂_same.2 fun x _ => blobsAgree_refl x)

/-- Two readings, one after the other. -/
theorem ReadAlike.append (h : ReadAlike o repository xs xs' layers layers')
    (h' : ReadAlike o repository ys ys' more more') :
    ReadAlike o repository (xs ++ ys) (xs' ++ ys') (layers ++ more) (layers' ++ more') where
  requests := by rw [List.map_append, List.map_append, h.requests, h'.requests]
  labels := (forall₂_append_iff h.labels.length_eq).2 ⟨h.labels, h'.labels⟩
  contents_iff := by
    rw [forall₂_append_iff h.labels.length_eq, forall₂_append_iff h.length_eq, h.contents_iff,
      h'.contents_iff]

/-- One item is read twice, by the same request. -/
theorem LayerRead.readAlike {item : Json} {x x' : Exchange} {layer layer' : Layer}
    (h : LayerRead o repository item x layer) (h' : LayerRead o repository item x' layer') :
    ReadAlike o repository [x] [x'] [layer] [layer'] := by
  obtain ⟨digest, p, hdigest, rfl, -, hcontent, hchecked⟩ := h.content
  obtain ⟨digest', p', hdigest', rfl, -, hcontent', hchecked'⟩ := h'.content
  obtain rfl : digest = digest' := by
    rw [hdigest] at hdigest'
    exact Json.text.inj (Option.some.inj hdigest')
  have hlabel : SameLabel layer layer' := by
    constructor
    · have htype := h.mediaType
      rw [h'.mediaType] at htype
      exact (Json.text.inj (Option.some.inj htype)).symm
    · rw [h.annotations, h'.annotations]
  refine ⟨rfl, .cons hlabel .nil, ?_⟩
  simp only [List.forall₂_cons, List.Forall₂.nil, and_true]
  constructor
  · intro hsame other q q' hq hq' _
    obtain rfl : p = q := Reply.received.inj (Prod.mk.inj hq).2
    obtain rfl : p' = q' := Reply.received.inj (Prod.mk.inj hq').2
    rwa [SameContent, hcontent, hcontent'] at hsame
  · intro hagree
    cases hstart : digest.startsWith "sha256:" with
    | true => exact (hchecked hstart).trans (hchecked' hstart).symm
    | false =>
      rw [SameContent, hcontent, hcontent']
      exact hagree digest p p' rfl rfl hstart

theorem readAlike_of_items {items : List Json} {reads reads' : List (Exchange × Layer)}
    (h : items.Forall₂ (fun item read => LayerRead o repository item read.1 read.2) reads)
    (h' : items.Forall₂ (fun item read => LayerRead o repository item read.1 read.2) reads') :
    ReadAlike o repository (reads.map Prod.fst) (reads'.map Prod.fst) (reads.map Prod.snd)
      (reads'.map Prod.snd) := by
  induction h generalizing reads' with
  | nil =>
    cases h'
    exact readAlike_refl []
  | cons hread _ ih =>
    cases h' with
    | cons hread' hrest' => exact (hread.readAlike hread').append (ih hrest')

/-- Two images under one tag are read from one manifest. -/
theorem ImageRead.readAlike {tag : Text} (h : ImageRead o repository tag xs layers)
    (h' : ImageRead o repository tag xs' layers')
    (halike : Alike (ManifestRequest o repository) xs xs') :
    ReadAlike o repository xs xs' layers layers' := by
  have hmanifest : ManifestRequest o repository (manifestRequest o .get repository tag) :=
    ⟨.get, tag, rfl⟩
  -- Both readings start with the request for the manifest, so they get one reply to it.
  cases h with
  | @missing p hstatus =>
    cases h' with
    | @missing p' _ =>
      obtain rfl : p = p' := Reply.received.inj ((halike rfl).1 hmanifest)
      exact readAlike_refl _
    | @listed p' _ _ _ hstatus' _ _ _ =>
      obtain rfl : p = p' := Reply.received.inj ((halike rfl).1 hmanifest)
      rw [hstatus] at hstatus'
      cases hstatus'
  | @listed p members items reads hstatus hbody hlayers hreads =>
    cases h' with
    | @missing p' hstatus' =>
      obtain rfl : p = p' := Reply.received.inj ((halike rfl).1 hmanifest)
      rw [hstatus] at hstatus'
      cases hstatus'
    | @listed p' members' items' reads' _ hbody' hlayers' hreads' =>
      obtain rfl : p = p' := Reply.received.inj ((halike rfl).1 hmanifest)
      obtain rfl : members = members' := by
        rw [hbody] at hbody'
        exact Json.object.inj (Except.ok.inj hbody')
      obtain rfl : items = items' := by
        rw [hlayers] at hlayers'
        exact Json.array.inj (Option.some.inj hlayers')
      exact (readAlike_refl [_]).append (readAlike_of_items hreads hreads')

theorem KindRead.readAlike {artifact : Artifact} {suffixes : List Text} {kind : Kind}
    (h : KindRead o artifact suffixes kind xs layers)
    (h' : KindRead o artifact suffixes kind xs' layers')
    (halike : Alike (ManifestRequest o artifact.repository) xs xs') :
    ReadAlike o artifact.repository xs xs' layers layers' := by
  cases h with
  | asked hsuffix htag himage =>
    cases h' with
    | asked _ htag' himage' =>
      rw [htag] at htag'
      obtain rfl := Option.some.inj htag'
      exact himage.readAlike himage' halike
    | notAsked hsuffix' => exact absurd hsuffix hsuffix'
  | notAsked hsuffix =>
    cases h' with
    | asked hsuffix' _ _ => exact absurd hsuffix' hsuffix
    | notAsked _ => exact readAlike_refl []

/-- The question for a manifest is asked in the same way and has the same answer. -/
theorem Asks.eq_of_alike {reference : Text} {reply reply' : Reply}
    (h : Asks o repository reference xs reply) (h' : Asks o repository reference xs' reply')
    (halike : Alike (ManifestRequest o repository) xs xs') : xs = xs' ∧ reply = reply' := by
  have hhead : ManifestRequest o repository (manifestRequest o .head repository reference) :=
    ⟨.head, reference, rfl⟩
  have hget : ManifestRequest o repository (manifestRequest o .get repository reference) :=
    ⟨.get, reference, rfl⟩
  cases h with
  | headers hdescribed =>
    cases h' with
    | headers _ =>
      obtain rfl := (halike rfl).1 hhead
      exact ⟨rfl, rfl⟩
    | fetched hstatus hincomplete =>
      obtain rfl := (halike rfl).1 hhead
      exact absurd (hdescribed _ rfl hstatus) hincomplete
  | fetched hstatus hincomplete =>
    cases h' with
    | headers hdescribed =>
      obtain rfl := (halike rfl).1 hhead
      exact absurd (hdescribed _ rfl hstatus) hincomplete
    | fetched _ _ =>
      obtain ⟨hfirst, hrest⟩ := halike rfl
      have hfirst' := hfirst hhead
      have hsecond := (hrest rfl).1 hget
      dsimp only at hfirst' hsecond
      rw [hfirst', hsecond]
      exact ⟨rfl, rfl⟩

end Remote

namespace Storing

open Attempt (Yields)
open Session (Alike AnswersAlike)
open Remote (ManifestRequest ReadAlike SameLabel SameContent BlobsAgree blobRequest manifestRequest
  acceptManifests)

variable {o : RemoteOptions} {artifact : Artifact} {suffixes : List Text}
  {xs xs' : List Exchange} {entity entity' : SignedEntity}

/-! ## Two resolutions -/

/-- The resolutions send the same requests, and for each kind they give layers with the same
labels. All contents agree exactly if the replies do that no digest is checked for. -/
structure ResolvedAlike (o : RemoteOptions) (artifact : Artifact) (xs xs' : List Exchange)
    (entity entity' : SignedEntity) : Prop where
  requests : xs.map Prod.fst = xs'.map Prod.fst
  labels : ∀ kind, (entity.layers kind).Forall₂ SameLabel (entity'.layers kind)
  contents_iff : (∀ kind, (entity.layers kind).Forall₂ SameContent (entity'.layers kind)) ↔
    xs.Forall₂ (BlobsAgree o artifact.repository) xs'

/-- Behind the same question for the manifest, the material of both kinds is read alike. -/
theorem resolvedAlike_of_parts (asked : List Exchange) {part part' : Kind → List Exchange}
    (h : ∀ kind, ReadAlike o artifact.repository (part kind) (part' kind) (entity.layers kind)
      (entity'.layers kind)) :
    ResolvedAlike o artifact (asked ++ (part .signature ++ part .attestation))
      (asked ++ (part' .signature ++ part' .attestation)) entity entity' := by
  have hboth := (Remote.readAlike_refl asked).append ((h .signature).append (h .attestation))
  refine ⟨hboth.requests, fun kind => (h kind).labels, ?_⟩
  rw [← hboth.contents_iff, List.nil_append, List.nil_append,
    Remote.forall₂_append_iff (h .signature).labels.length_eq]
  constructor
  · intro hkinds
    exact ⟨hkinds .signature, hkinds .attestation⟩
  · intro hkinds kind
    cases kind with
    | signature => exact hkinds.1
    | attestation => exact hkinds.2

/-- The requests for signatures are the same, so the attestations are read alike too. -/
theorem EntityRead.resolvedAlike (asked : List Exchange)
    (h : EntityRead o artifact suffixes xs entity) (h' : EntityRead o artifact suffixes xs' entity')
    (halike : Alike (ManifestRequest o artifact.repository) xs xs') :
    ResolvedAlike o artifact (asked ++ xs) (asked ++ xs') entity entity' := by
  obtain ⟨part, rfl, hread⟩ := h.parts
  obtain ⟨part', rfl, hread'⟩ := h'.parts
  have hsignatures := (hread .signature).readAlike (hread' .signature) halike.left
  have hbehind := halike.right hsignatures.requests
  apply resolvedAlike_of_parts asked
  intro kind
  cases kind with
  | signature => exact hsignatures
  | attestation => exact (hread .attestation).readAlike (hread' .attestation) hbehind

theorem Resolved.resolvedAlike {asked read asked' read' : List Exchange} {reply reply' : Reply}
    (h : Resolved o artifact suffixes asked read reply entity)
    (h' : Resolved o artifact suffixes asked' read' reply' entity')
    (halike : Alike (ManifestRequest o artifact.repository) (asked ++ read) (asked' ++ read')) :
    ResolvedAlike o artifact (asked ++ read) (asked' ++ read') entity entity' := by
  obtain ⟨rfl, rfl⟩ := h.asks.eq_of_alike h'.asks halike.left
  by_cases hmissing : reply.NotFound
  · -- Both give the placeholder and read nothing more.
    obtain rfl := h.unknown_iff.2 hmissing
    obtain rfl := h'.unknown_iff.2 hmissing
    obtain rfl := h.read_of_notFound hmissing
    obtain rfl := h'.read_of_notFound hmissing
    have hnone (kind : Kind) : (SignedEntity.unknown artifact).layers kind = [] := by
      cases kind <;> rfl
    refine @resolvedAlike_of_parts o artifact _ _ asked (fun _ => []) (fun _ => []) ?_
    intro kind
    rw [hnone]
    exact Remote.readAlike_refl []
  · exact (h.read_of_found hmissing).resolvedAlike asked (h'.read_of_found hmissing)
      (halike.right rfl)

/-- Without a digest that is left unchecked, all contents agree. -/
theorem ResolvedAlike.contents (h : ResolvedAlike o artifact xs xs' entity entity')
    (hchecked : ∀ x ∈ xs, ∀ digest, x.1 = blobRequest o .get artifact.repository digest →
      digest.startsWith "sha256:" = true) :
    ∀ kind, (entity.layers kind).Forall₂ SameContent (entity'.layers kind) := by
  apply h.contents_iff.2
  rw [List.forall₂_iff_get]
  have hlength : xs.length = xs'.length := by simpa using congrArg List.length h.requests
  refine ⟨hlength, ?_⟩
  intro i hi hi' digest p p' hx _ hstart
  have hmem : xs.get ⟨i, hi⟩ ∈ xs := List.get_mem xs ⟨i, hi⟩
  have hchecked' := hchecked _ hmem digest (congrArg Prod.fst hx)
  rw [hstart] at hchecked'
  cases hchecked'

/-- Two servers may answer the requests for blobs in any way. As long as they answer those for the
manifests of a repository alike, two resolutions of an artifact there that succeed give the same
layers up to their contents. The contents have the same SHA-256 digests exactly if the replies to
requests for blobs under other digests do, so they do if there is no such request. -/
theorem contents_agree_iff {σ τ : Type} (server : Session.Server σ) (state : σ)
    (server' : Session.Server τ) (state' : τ) (o : RemoteOptions) (artifact : Artifact)
    (suffixes : List Text) (entity entity' : SignedEntity)
    (halike : AnswersAlike (ManifestRequest o artifact.repository) server state server' state')
    (h : (runResolution server o artifact suffixes state).result = .ok entity)
    (h' : (runResolution server' o artifact suffixes state').result = .ok entity') :
    ResolvedAlike o artifact (runResolution server o artifact suffixes state).exchanges
      (runResolution server' o artifact suffixes state').exchanges entity entity' ∧
    ((∀ x ∈ (runResolution server o artifact suffixes state).exchanges, ∀ digest,
        x.1 = blobRequest o .get artifact.repository digest →
          digest.startsWith "sha256:" = true) →
      ∀ kind, (entity.layers kind).Forall₂ SameContent (entity'.layers kind)) := by
  have hyields := Attempt.yields_run server (resolve o artifact suffixes) state
  have hyields' := Attempt.yields_run server' (resolve o artifact suffixes) state'
  have hserved := Session.served_run server (resolve o artifact suffixes).run state
  have hserved' := Session.served_run server' (resolve o artifact suffixes).run state'
  have hexchanges := halike.alike hserved hserved'
  rw [h] at hyields
  rw [h'] at hyields'
  obtain ⟨asked, read, reply, hxs, hresolved⟩ := resolved_of_resolve hyields
  obtain ⟨asked', read', reply', hxs', hresolved'⟩ := resolved_of_resolve hyields'
  rw [hxs, hxs'] at hexchanges
  have hsame := hresolved.resolvedAlike hresolved' hexchanges
  rw [← hxs, ← hxs'] at hsame
  exact ⟨hsame, hsame.contents⟩

/-! ## A digest that is not checked -/

/-- A digest with as many digits as SHA-512 has. -/
def wideDigest : Text := ("sha512:" : Text) ++ List.replicate 128 ('0' : CodePoint)

/-- An image with one layer under that digest. -/
def wideImage : Bytes :=
  encoded (("\x7b\"layers\": [\x7b\"mediaType\": \"t\", \"digest\": \"" : Text) ++ wideDigest ++
    "\"\x7d]\x7d")

/-- A registry that keeps the artifact and this image, and answers all other requests with the
content. -/
def oneContent (content : Bytes) : Session.Server Unit := fun _ q =>
  let response : RawResponse :=
    if q.headers ≠ RemoteOptions.headers {} acceptManifests then ⟨200, [], content⟩
    else if q.method = .head then
      ⟨200, [("Docker-Content-Digest", "d"), ("Content-Type", "m"), ("Content-Length", "1")], []⟩
    else ⟨200, [], wideImage⟩
  (.response response, ())

/-- What is resolved there. -/
def oneContentSigned (content : Bytes) : SignedEntity :=
  { artifact := sampleArtifact
    descriptor := some { mediaType := "m", digest := "d", size := 1 }
    signatures := [{ mediaType := "t", content := content }] }

/-- The content does not show in the answers to requests for manifests. -/
theorem answersAlike_oneContent (content content' : Bytes) :
    AnswersAlike (ManifestRequest {} sampleArtifact.repository) (oneContent content) ()
      (oneContent content') () := by
  intro before q hq
  obtain ⟨method, reference, rfl⟩ := hq
  have hheaders : (manifestRequest {} method sampleArtifact.repository reference).headers =
      RemoteOptions.headers {} acceptManifests := rfl
  simp only [oneContent, hheaders, ne_eq, not_true_eq_false, if_false]

theorem blobRequest_injective {repository : Repository} {digest digest' : Text}
    (h : blobRequest o .get repository digest = blobRequest o .get repository digest') :
    digest = digest' :=
  List.append_cancel_left (List.append_cancel_left (congrArg Request.url h))

theorem result_oneContent : ∀ content ∈ [([1] : Bytes), [2]],
    (runResolution (oneContent content) {} sampleArtifact ["sig"] ()).result =
      .ok (oneContentSigned content) := by
  decide +kernel

theorem requests_oneContent :
    (runResolution (oneContent [1]) {} sampleArtifact ["sig"] ()).exchanges.map Prod.fst =
      [manifestRequest {} .head sampleArtifact.repository sampleArtifact.digest,
       manifestRequest {} .get sampleArtifact.repository
        (sampleArtifact.algorithm ++ "-" ++ sampleArtifact.digest.drop 7 ++ ".sig"),
       blobRequest {} .get sampleArtifact.repository wideDigest] := by
  decide +kernel

/-- The layer is fetched under the one digest, which can be validated. -/
theorem validate_of_requested :
    ∀ x ∈ (runResolution (oneContent [1]) {} sampleArtifact ["sig"] ()).exchanges,
      ∀ digest, x.1 = blobRequest {} .get sampleArtifact.repository digest →
        Digest.validate digest = .ok () := by
  intro x hx digest hrequest
  have hwide : Digest.validate wideDigest = .ok () := by decide +kernel
  have haccept : RemoteOptions.headers {} acceptManifests ≠ RemoteOptions.headers {} [] := by
    decide
  have hmem := List.mem_map_of_mem (f := Prod.fst) hx
  rw [requests_oneContent, hrequest] at hmem
  simp only [List.mem_cons, List.not_mem_nil, or_false] at hmem
  rcases hmem with hmanifest | hmanifest | hblob
  · exact absurd (congrArg Request.headers hmanifest.symm) haccept
  · exact absurd (congrArg Request.headers hmanifest.symm) haccept
  · rw [blobRequest_injective hblob]
    exact hwide

/-- Two registries that differ in a content under a digest that is not checked. -/
theorem contents_agree_iff_oneContent :
    AnswersAlike (ManifestRequest {} sampleArtifact.repository) (oneContent [1]) ()
      (oneContent [2]) () ∧
    ResolvedAlike {} sampleArtifact
      (runResolution (oneContent [1]) {} sampleArtifact ["sig"] ()).exchanges
      (runResolution (oneContent [2]) {} sampleArtifact ["sig"] ()).exchanges
      (oneContentSigned [1]) (oneContentSigned [2]) := by
  have halike := answersAlike_oneContent [1] [2]
  have hfirst := result_oneContent [1] (by decide)
  have hsecond := result_oneContent [2] (by decide)
  exact ⟨halike, (contents_agree_iff (oneContent [1]) () (oneContent [2]) () {} sampleArtifact
    ["sig"] _ _ halike hfirst hsecond).1⟩

/-- Digests that can be validated do not make sure that contents agree. -/
theorem contents_differ :
    ¬ ∀ (server server' : Session.Server Unit) (o : RemoteOptions) (artifact : Artifact)
      (suffixes : List Text) (entity entity' : SignedEntity),
      AnswersAlike (ManifestRequest o artifact.repository) server () server' () →
      (runResolution server o artifact suffixes ()).result = .ok entity →
      (runResolution server' o artifact suffixes ()).result = .ok entity' →
      (∀ x ∈ (runResolution server o artifact suffixes ()).exchanges, ∀ digest,
        x.1 = blobRequest o .get artifact.repository digest → Digest.validate digest = .ok ()) →
      ∀ kind, (entity.layers kind).Forall₂ SameContent (entity'.layers kind) := by
  intro h
  have hsame := h (oneContent [1]) (oneContent [2]) {} sampleArtifact ["sig"] _ _
    (answersAlike_oneContent [1] [2]) (result_oneContent [1] (by decide))
    (result_oneContent [2] (by decide)) validate_of_requested .signature
  have hne : sha256Digest [1] ≠ sha256Digest [2] := by decide +kernel
  cases hsame with
  | cons hcontent _ => exact hne hcontent

end Storing
end Signet
