import Mathlib
import Signet.Proofs.Remote.Subject

/-!
# Manifests that are missing, and images that are read

A manifest is missing exactly if the reply that decides about it has status 404. Reading an
image under a tag says of no manifest that it is missing: an image whose manifest is missing
has no layers, and every other failure stays a failure. What is read has one layer for each
item that the manifest lists, in the same order.

## Main definitions

* `Response.DescribesManifest` — the headers of a response describe a manifest completely.
* `Remote.Asks` — the exchanges that ask for a manifest, with the reply that decides.
* `Remote.LayerRead`, `Remote.ImageRead`, `Remote.KindRead` — the exchanges that read a layer,
  an image under a tag and the material of a kind, with what is read.
-/
namespace Signet

/-- The failure says that a manifest is missing. -/
def RemoteFailure.IsMissing (e : RemoteFailure) : Prop :=
  ∃ repository reference, e = .registry (.missing repository reference)

/-- The registry answers that there is nothing. -/
def Reply.NotFound (reply : Reply) : Prop := ∃ p, reply = .received p ∧ p.status = 404

/-- The headers tell the digest, the type and the length of a manifest. -/
def Response.DescribesManifest (p : Response) : Prop :=
  ∃ digest mediaType length, p.header? "Docker-Content-Digest" = some digest ∧ digest ≠ [] ∧
    p.header? "Content-Type" = some mediaType ∧ mediaType ≠ [] ∧
    p.header? "Content-Length" = some length ∧ length.isDigits

namespace Remote

open Attempt (Yields Fails)

variable {α : Type} {o : RemoteOptions} {repository : Repository} {xs : List Exchange}

/-! ## Manifests that are missing -/

theorem describeByHeaders_eq_none_iff {p : Response} :
    describeByHeaders p = none ↔ ¬ p.DescribesManifest := by
  unfold describeByHeaders Response.DescribesManifest
  split
  · rename_i digest mediaType length hdigest htype hlength
    simp only [hdigest, htype, hlength, Option.some.injEq]
    split_ifs with hincomplete
    · simp only [true_iff]
      rintro ⟨_, _, _, rfl, hd, rfl, ht, rfl, hl⟩
      simp [hd, ht, hl] at hincomplete
    · simp only [false_iff, not_not]
      simp only [Bool.or_eq_true, List.isEmpty_iff, Bool.not_eq_true', not_or,
        Bool.not_eq_false] at hincomplete
      exact ⟨digest, mediaType, length, rfl, hincomplete.1.1, rfl, hincomplete.1.2, rfl,
        hincomplete.2⟩
  · rename_i hnone
    simp only [true_iff]
    rintro ⟨digest, mediaType, length, hdigest, -, htype, -, hlength, -⟩
    exact hnone digest mediaType length hdigest htype hlength

/-- The exchanges ask for a manifest, and the reply decides: the one to the request for the
headers, or if that is a manifest that its headers do not describe, the one to the request for
the manifest. -/
inductive Asks (o : RemoteOptions) (repository : Repository) (reference : Text) :
    List Exchange → Reply → Prop where
  | headers {reply : Reply}
    (h : ∀ p, reply = .received p → p.status = 200 → p.DescribesManifest) :
    Asks o repository reference [(manifestRequest o .head repository reference, reply)] reply
  | fetched {p : Response} {reply : Reply} (hstatus : p.status = 200)
    (h : ¬ p.DescribesManifest) :
    Asks o repository reference
      [(manifestRequest o .head repository reference, .received p),
       (manifestRequest o .get repository reference, reply)] reply

/-- What a response says of a manifest is that it is missing exactly if it has status 404. -/
theorem checked_isMissing_iff {reference : Text} {p : Response}
    {understand : Except RemoteFailure α}
    (h : p.status = 200 → ∀ e, understand = .error e → ¬ e.IsMissing) :
    (∃ e, (checkManifest repository reference p >>= fun _ => understand) = .error e ∧
      e.IsMissing) ↔ p.status = 404 := by
  unfold checkManifest
  split_ifs with hmissing hother
  · simp [hmissing, Bind.bind, Except.bind, RemoteFailure.IsMissing]
  · simp [hmissing, Bind.bind, Except.bind, RemoteFailure.IsMissing]
  · rw [ne_eq, not_not] at hother
    constructor
    · rintro ⟨e, he, hmissing⟩
      exact absurd hmissing (h hother e he)
    · intro hstatus
      exact absurd hstatus hmissing

theorem readHeaders_isMissing_iff {reference : Text} {p : Response} :
    (∃ e, readHeaders repository reference p = .error e ∧ e.IsMissing) ↔ p.status = 404 := by
  refine checked_isMissing_iff fun _ e he => ?_
  rintro ⟨repository', reference', rfl⟩
  split at he <;> cases he

theorem readManifest_isMissing_iff {reference : Text} {p : Response} :
    (∃ e, readManifest repository reference p = .error e ∧ e.IsMissing) ↔ p.status = 404 := by
  refine checked_isMissing_iff fun _ e he => ?_
  rintro ⟨repository', reference', rfl⟩
  split at he
  · cases he
  · cases he
  · split at he <;> cases he

/-- A question says that a manifest is missing exactly if its responses do. -/
theorem understood_isMissing_iff {request : Request}
    {understand : Response → Except RemoteFailure α} {reply : Reply}
    (h : ∀ p, (∃ e, understand p = .error e ∧ e.IsMissing) ↔ p.status = 404) :
    (∃ e, understood request understand reply = .error e ∧ e.IsMissing) ↔ reply.NotFound := by
  cases reply with
  | failure reason => simp [understood, RemoteFailure.IsMissing, Reply.NotFound]
  | received p => simpa [Reply.NotFound] using h p

theorem readHeaders_eq_ok_none_iff {reference : Text} {p : Response} :
    readHeaders repository reference p = .ok none ↔ p.status = 200 ∧ ¬ p.DescribesManifest := by
  rw [← describeByHeaders_eq_none_iff, readHeaders]
  cases hcheck : checkManifest repository reference p with
  | error e =>
    have hstatus : p.status ≠ 200 := by
      intro hstatus
      rw [checkManifest_eq_ok_iff.2 hstatus] at hcheck
      cases hcheck
    simp [hstatus, Bind.bind, Except.bind]
  | ok u =>
    rw [checkManifest_eq_ok_iff] at hcheck
    dsimp only [Bind.bind, Except.bind]
    split
    · rename_i hnone
      simp [hcheck, hnone]
    · rename_i hsome
      simp [hsome]
    · rename_i hsome
      simp [hsome]

/-- Describing a manifest says that it is missing exactly if the reply that decides does. -/
theorem HeadCourse.asks {reference : Text} {r : Except RemoteFailure Descriptor}
    (h : HeadCourse o repository reference xs r) :
    ∃ reply, Asks o repository reference xs reply ∧
      ((∃ e, r = .error e ∧ e.IsMissing) ↔ reply.NotFound) := by
  cases h with
  | @headers reply _ h =>
    refine ⟨reply, .headers ?_, ?_⟩
    · rintro p rfl hstatus
      by_contra hincomplete
      have hnone : readHeaders repository reference p = .ok none :=
        readHeaders_eq_ok_none_iff.2 ⟨hstatus, hincomplete⟩
      rw [understood_received, hnone] at h
      cases r <;> cases h
    · have hreply : (∃ e, understood (manifestRequest o .head repository reference)
          (readHeaders repository reference) reply = .error e ∧ e.IsMissing) ↔ reply.NotFound :=
        understood_isMissing_iff fun _ => readHeaders_isMissing_iff
      rw [← hreply, h]
      cases r <;> simp [Except.map]
  | @fetched p reply r h hget =>
    obtain ⟨hstatus, hincomplete⟩ := readHeaders_eq_ok_none_iff.1 h
    refine ⟨reply, .fetched hstatus hincomplete, ?_⟩
    have hreply : (∃ e, understood (manifestRequest o .get repository reference)
        (readManifest repository reference) reply = .error e ∧ e.IsMissing) ↔ reply.NotFound :=
      understood_isMissing_iff fun _ => readManifest_isMissing_iff
    rw [← hreply, hget]
    cases r <;> simp [Except.map]

/-! ## Images that are read -/

/-- The annotations that a manifest states for a layer, their values as texts; none unless they
are an object. -/
def statedAnnotations (item : Json) : Annotations :=
  match item.member? "annotations" with
  | some (.object members) => members.map fun m => (m.1, m.2.display)
  | _ => []

/-- The exchange fetches the content of the layer that an item of a manifest describes. -/
structure LayerRead (o : RemoteOptions) (repository : Repository) (item : Json) (x : Exchange)
    (layer : Layer) : Prop where
  mediaType : item.member? "mediaType" = some (.text layer.mediaType)
  content : ∃ digest p, item.member? "digest" = some (.text digest) ∧
    x = (blobRequest o .get repository digest, .received p) ∧ p.status = 200 ∧
    layer.content = p.body ∧ (digest.startsWith "sha256:" → sha256Digest layer.content = digest)
  annotations : layer.annotations = statedAnnotations item

/-- The exchanges read the image under a tag. Its manifest is missing, or it lists the layers
that are fetched one after the other. -/
inductive ImageRead (o : RemoteOptions) (repository : Repository) (tag : Text) :
    List Exchange → List Layer → Prop where
  | missing {p : Response} (hstatus : p.status = 404) :
    ImageRead o repository tag [(manifestRequest o .get repository tag, .received p)] []
  | listed {p : Response} {members : Json.Members} {items : List Json}
    {reads : List (Exchange × Layer)} (hstatus : p.status = 200)
    (hbody : Json.readBytes p.body = .ok (.object members))
    (hlayers : members.get? "layers" = some (.array items))
    (hreads : items.Forall₂ (fun item read => LayerRead o repository item read.1 read.2) reads) :
    ImageRead o repository tag
      ((manifestRequest o .get repository tag, .received p) :: reads.map Prod.fst)
      (reads.map Prod.snd)

/-- The exchanges read the material of a kind, if its suffix is one of those that are asked
for. -/
inductive KindRead (o : RemoteOptions) (artifact : Artifact) (suffixes : List Text) (kind : Kind) :
    List Exchange → List Layer → Prop where
  | asked {tag : Text} {xs : List Exchange} {layers : List Layer} (hsuffix : kind.suffix ∈ suffixes)
    (htag : artifact.tag? kind.suffix = some tag)
    (himage : ImageRead o artifact.repository tag xs layers) :
    KindRead o artifact suffixes kind xs layers
  | notAsked (hsuffix : kind.suffix ∉ suffixes) : KindRead o artifact suffixes kind [] []

/-- An image without layers is missing, or its manifest lists none. -/
theorem ImageRead.of_nil {tag : Text} (h : ImageRead o repository tag xs []) :
    ∃ p, xs = [(manifestRequest o .get repository tag, .received p)] ∧
      (p.status = 404 ∨ ∃ members : Json.Members, Json.readBytes p.body = .ok (.object members) ∧
        members.get? "layers" = some (.array [])) := by
  generalize hnone : ([] : List Layer) = layers at h
  cases h with
  | @missing p hstatus => exact ⟨p, rfl, .inl hstatus⟩
  | @listed p members items reads _ hbody hlayers hreads =>
    obtain rfl : reads = [] := List.map_eq_nil_iff.1 hnone.symm
    obtain rfl := List.forall₂_nil_right_iff.1 hreads
    exact ⟨p, rfl, .inr ⟨members, hbody, hlayers⟩⟩

/-- The manifest of a tag image is fetched, or it is missing. -/
theorem tagManifest?_ok {tag : Text} {manifest : Option Json.Members}
    (h : Yields (tagManifest? o repository tag) xs (.ok manifest)) :
    ∃ p, xs = [(manifestRequest o .get repository tag, .received p)] ∧
      match manifest with
      | none => p.status = 404
      | some members => p.status = 200 ∧ Json.readBytes p.body = .ok (.object members) := by
  rcases Attempt.yields_recover.1 h with ⟨_, hfetch, hok⟩ | ⟨e, hfetch, hok⟩
  · cases hok
    obtain ⟨_, _, found, rfl, hget, rfl, hsame⟩ := Attempt.yields_bind_ok.1 hfetch
    cases hsame
    obtain ⟨reply, rfl, hreply⟩ := yields_ask.1 hget
    obtain ⟨p, rfl, hp⟩ := understood_eq_ok_iff.1 hreply.symm
    have hstatus := status_of_readManifest hp
    exact ⟨p, rfl, hstatus, ((readManifest_eq_ok_iff hstatus).1 hp).1⟩
  · split at hok
    · cases hok
      rcases Attempt.yields_bind.1 hfetch with ⟨e', hget, he⟩ | ⟨_, _, _, -, -, -, he⟩
      · obtain ⟨reply, rfl, hreply⟩ := yields_ask.1 hget
        have hmissing : reply.NotFound :=
          (understood_isMissing_iff fun _ => readManifest_isMissing_iff).1
            ⟨e', hreply.symm, _, _, (Except.error.inj he).symm⟩
        obtain ⟨p, rfl, hstatus⟩ := hmissing
        exact ⟨p, rfl, hstatus⟩
      · cases he
    · cases hok

theorem layerText?_eq_some {key : Text} {members : Json.Members} {t : Text}
    (h : layerText? key members = some t) : members.get? key = some (.text t) := by
  obtain ⟨v, hv, ht⟩ := Option.bind_eq_some_iff.1 (Option.filter_eq_some_iff.1 h).1
  cases v with
  | text t' =>
    cases ht
    exact hv
  | null | bool _ | int _ | float _ | array _ | object _ => cases ht

theorem layerAnnotations_eq (members : Json.Members) :
    layerAnnotations members = statedAnnotations (.object members) := by
  have hmember : (Json.object members).member? "annotations" = members.get? "annotations" := rfl
  rw [layerAnnotations, statedAnnotations, hmember]
  cases members.get? "annotations" with
  | none => rfl
  | some v => cases v <;> rfl

theorem layerRead_of_loadLayer {tag : Text} {item : Json} {layer : Layer}
    (h : Yields (loadLayer o repository tag item) xs (.ok layer)) :
    ∃ x, xs = [x] ∧ LayerRead o repository item x layer := by
  rw [loadLayer] at h
  split at h
  · obtain ⟨-, hok⟩ := h
    cases hok
  rename_i members hmembers
  obtain rfl : item = .object members := by cases item <;> cases hmembers; rfl
  split at h
  · rename_i mediaType digest htype hdigest
    obtain ⟨_, _, content, rfl, hblob, rfl, hsame⟩ := Attempt.yields_bind_ok.1 h
    cases hsame
    obtain ⟨reply, rfl, hreply⟩ := yields_ask.1 hblob
    obtain ⟨p, rfl, hp⟩ := understood_eq_ok_iff.1 hreply.symm
    obtain ⟨hstatus, hdigest', rfl⟩ := readBlob_eq_ok_iff.1 hp
    exact ⟨_, rfl, layerText?_eq_some htype,
      ⟨digest, p, layerText?_eq_some hdigest, rfl, hstatus, rfl, hdigest'⟩,
      layerAnnotations_eq members⟩
  · obtain ⟨-, hok⟩ := h
    cases hok

/-- Each item that is listed is read as one layer, by one exchange. -/
theorem layersRead_of_loadEach {tag : Text} {items : List Json} {layers : List Layer}
    (h : Yields (loadEach o repository tag items) xs (.ok layers)) :
    ∃ reads : List (Exchange × Layer), xs = reads.map Prod.fst ∧ layers = reads.map Prod.snd ∧
      items.Forall₂ (fun item read => LayerRead o repository item read.1 read.2) reads := by
  induction items generalizing xs layers with
  | nil =>
    obtain ⟨rfl, hsame⟩ := h
    cases hsame
    exact ⟨[], rfl, rfl, .nil⟩
  | cons item rest ih =>
    obtain ⟨_, _, layer, rfl, hlayer, h⟩ := Attempt.yields_bind_ok.1 h
    obtain ⟨_, _, others, rfl, hothers, rfl, hsame⟩ := Attempt.yields_bind_ok.1 h
    cases hsame
    obtain ⟨x, rfl, hread⟩ := layerRead_of_loadLayer hlayer
    obtain ⟨reads, rfl, rfl, hreads⟩ := ih hothers
    exact ⟨(x, layer) :: reads, by simp, rfl, .cons hread hreads⟩

theorem imageRead_of_loadLayers {tag : Text} {layers : List Layer}
    (h : Yields (loadLayers o repository tag) xs (.ok layers)) :
    ImageRead o repository tag xs layers := by
  obtain ⟨_, _, manifest, rfl, hmanifest, h⟩ := Attempt.yields_bind_ok.1 h
  obtain ⟨p, rfl, hp⟩ := tagManifest?_ok hmanifest
  cases manifest with
  | none =>
    obtain ⟨rfl, hsame⟩ := h
    cases hsame
    exact .missing hp
  | some members =>
    dsimp only at h hp
    split at h
    · obtain ⟨-, hok⟩ := h
      cases hok
    · rename_i items hitems
      obtain ⟨reads, rfl, rfl, hreads⟩ := layersRead_of_loadEach h
      obtain ⟨v, hv, hv'⟩ := Option.bind_eq_some_iff.1 hitems
      obtain rfl : v = .array items := by cases v <;> cases hv'; rfl
      exact .listed hp.1 hp.2 hv hreads

theorem kindRead_of_loadKind {artifact : Artifact} {suffixes : List Text} {kind : Kind}
    {layers : List Layer} (h : Yields (loadKind o artifact suffixes kind) xs (.ok layers)) :
    KindRead o artifact suffixes kind xs layers := by
  rw [loadKind] at h
  split at h
  · rename_i hsuffix
    obtain ⟨_, zs, tag, rfl, htag, hlayers⟩ := Attempt.yields_bind_ok.1 h
    rw [tagFor] at htag
    split at htag
    · rename_i found hfound
      obtain ⟨rfl, hsame⟩ := htag
      cases hsame
      exact .asked hsuffix hfound (imageRead_of_loadLayers hlayers)
    · obtain ⟨-, hok⟩ := htag
      cases hok
  · rename_i hsuffix
    obtain ⟨rfl, hsame⟩ := h
    cases hsame
    exact .notAsked hsuffix

/-! ## Reading an image does not say that a manifest is missing -/

theorem fails_fail {P : RemoteFailure → Prop} {e : RegistryError} (h : P (.registry e)) :
    Fails P (fail e : Remote α) := by
  rintro _ _ ⟨-, he⟩
  cases he
  exact h

theorem fails_tagManifest? (tag : Text) :
    Fails (¬ ·.IsMissing) (tagManifest? o repository tag) := by
  intro xs e hxs
  rcases Attempt.yields_recover.1 hxs with ⟨_, -, he⟩ | ⟨e', -, he⟩
  · cases he
  · split at he
    · cases he
    · rename_i hother
      cases he
      rintro ⟨repository', reference', rfl⟩
      exact hother _ _ rfl

theorem fails_loadEach (tag : Text) (items : List Json) :
    Fails (¬ ·.IsMissing) (loadEach o repository tag items) := by
  have hblob (digest : Text) : Fails (¬ ·.IsMissing) (getBlob o repository digest) := by
    intro xs e hxs
    obtain ⟨reply, rfl, hreply⟩ := yields_ask.1 hxs
    rintro ⟨repository', reference', rfl⟩
    cases reply with
    | failure reason => cases hreply
    | received p =>
      rw [understood_received, readBlob] at hreply
      split_ifs at hreply <;> simpa using hreply.symm
  have hlayer (item : Json) : Fails (¬ ·.IsMissing) (loadLayer o repository tag item) := by
    rw [loadLayer]
    split
    · exact fails_fail (by simp [RemoteFailure.IsMissing])
    · split
      · exact (hblob _).bind fun _ => Attempt.fails_pure _
      · exact fails_fail (by simp [RemoteFailure.IsMissing])
  induction items with
  | nil => exact Attempt.fails_pure _
  | cons item rest ih => exact (hlayer item).bind fun _ => ih.bind fun _ => Attempt.fails_pure _

theorem fails_loadKind (artifact : Artifact) (suffixes : List Text) (kind : Kind) :
    Fails (¬ ·.IsMissing) (loadKind o artifact suffixes kind) := by
  have htag : Fails (¬ ·.IsMissing) (tagFor artifact kind.suffix) := by
    intro xs e hxs
    rw [tagFor] at hxs
    rintro ⟨repository', reference', rfl⟩
    split at hxs <;> cases hxs.2
  have hlayers (tag : Text) : Fails (¬ ·.IsMissing) (loadLayers o artifact.repository tag) := by
    apply (fails_tagManifest? tag).bind
    intro manifest
    cases manifest with
    | none => exact Attempt.fails_pure _
    | some members =>
      dsimp only
      split
      · exact fails_fail (by simp [RemoteFailure.IsMissing])
      · exact fails_loadEach tag _
  rw [loadKind]
  split
  · exact htag.bind hlayers
  · exact Attempt.fails_pure _

end Remote
end Signet
