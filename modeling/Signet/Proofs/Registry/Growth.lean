import Mathlib
import Signet.Proofs.Registry.Location
import Signet.Proofs.Remote.Image

/-!
# How a registry grows

Requests of the client never take anything away from a registry. Blobs stay under their
digests, and a manifest changes only under its digest or under the tag to which an image is
pushed. `Grows` states this about two states of a registry; it holds for each request of the
client, so it holds for whole courses.
-/
namespace Signet

open Attempt (Yields Sends)
open Session (Served)

theorem startsWith_sha256Digest (content : Bytes) :
    (sha256Digest content).startsWith "sha256:" = true := by
  simp [Text.startsWith, sha256Digest]

theorem sha256Digest_ne_nil (content : Bytes) : sha256Digest content ≠ [] := by
  intro h
  exact absurd (startsWith_sha256Digest content) (by rw [h]; decide)

namespace Registry

/-- Every blob that is kept under a SHA-256 digest has that digest. -/
def Hashed (r : Registry) : Prop :=
  ∀ key content, Assoc.lookup key r.blobs = some content →
    key.reference.startsWith "sha256:" = true → sha256Digest content = key.reference

/-- The second state has grown out of the first one. Manifests under tags may differ for the
given keys only. -/
structure Grows (only : Key → Prop) (r r' : Registry) : Prop where
  hashed : r'.Hashed
  listsReferrers : r'.listsReferrers = r.listsReferrers
  blob : ∀ {key content}, Assoc.lookup key r.blobs = some content →
    ∃ content', Assoc.lookup key r'.blobs = some content' ∧
      sha256Digest content' = sha256Digest content
  tagged : ∀ {key : Key}, key.reference.startsWith "sha256:" = false → ¬ only key →
    Assoc.lookup key r'.manifests = Assoc.lookup key r.manifests
  pushed : ∀ {key m}, Assoc.lookup key r.manifests = some m →
    ∃ m', Assoc.lookup key r'.manifests = some m' ∧
      (m' = m ∨ m'.mediaType = MediaType.imageManifest)

namespace Grows

variable {only only' : Key → Prop} {r r' r'' : Registry}

theorem refl (h : r.Hashed) : Grows only r r :=
  ⟨h, rfl, fun hkey => ⟨_, hkey, rfl⟩, fun _ _ => rfl, fun hkey => ⟨_, hkey, .inl rfl⟩⟩

theorem trans (h : Grows only r r') (h' : Grows only r' r'') : Grows only r r'' where
  hashed := h'.hashed
  listsReferrers := h'.listsReferrers.trans h.listsReferrers
  blob := by
    intro key content hkey
    obtain ⟨content', hkey', hdigest⟩ := h.blob hkey
    obtain ⟨content'', hkey'', hdigest'⟩ := h'.blob hkey'
    exact ⟨content'', hkey'', hdigest'.trans hdigest⟩
  tagged := fun hkey honly => (h'.tagged hkey honly).trans (h.tagged hkey honly)
  pushed := by
    intro key m hkey
    obtain ⟨m', hkey', hm'⟩ := h.pushed hkey
    obtain ⟨m'', hkey'', rfl | hm''⟩ := h'.pushed hkey'
    · exact ⟨m'', hkey'', hm'⟩
    · exact ⟨m'', hkey'', .inr hm''⟩

/-- Only keys under tags count. -/
theorem mono (h : Grows only r r')
    (hmono : ∀ key : Key, key.reference.startsWith "sha256:" = false → only key → only' key) :
    Grows only' r r' :=
  ⟨h.hashed, h.listsReferrers, h.blob,
    fun hkey honly => h.tagged hkey fun ho => honly (hmono _ hkey ho), h.pushed⟩

end Grows

/-- What names content of a repository in a registry. -/
abbrev keyOf (repository : Repository) (reference : Text) : Key := ⟨repository.toText, reference⟩

variable {r r' : Registry} {o : RemoteOptions} {repository : Repository} {xs : List Exchange}

/-! ## Reading -/

/-- A request that reads leaves the registry as it is. -/
theorem state_of_reads {q : Request} (h : q.Reads) : (serve r q).2 = r := by
  have hput : q.method ≠ .put := by
    intro hmethod
    have hsafe := h.1
    rw [hmethod] at hsafe
    cases hsafe
  have hpost : q.method ≠ .post := by
    intro hmethod
    have hsafe := h.1
    rw [hmethod] at hsafe
    cases hsafe
  have hrespond : (r.respond q).2 = r := by
    unfold respond
    split
    · rfl
    dsimp only
    split
    · rfl
    · rw [upload, if_neg hpost]
      simp [h.2]
    · split <;> rfl
    · split <;> rfl
    · rw [if_neg hput]
      split <;> rfl
  exact hrespond

/-- Requests that read leave the registry as it is, and the replies are those of that state. -/
theorem served_reads (hxs : ∀ x ∈ xs, x.1.Reads) (hs : Served serve r xs r') :
    r' = r ∧ ∀ x ∈ xs, x.2 = (serve r x.1).1 := by
  induction xs with
  | nil => exact ⟨hs, by simp⟩
  | cons x xs ih =>
    obtain ⟨hreply, hs⟩ := hs
    rw [state_of_reads (hxs x (by simp))] at hs
    obtain ⟨hstate, hreplies⟩ := ih (fun y hy => hxs y (by simp [hy])) hs
    refine ⟨hstate, ?_⟩
    intro y hy
    rcases List.mem_cons.1 hy with rfl | hy
    · exact hreply
    · exact hreplies y hy

/-! ## Uploading -/

/-- Taking a blob under its digest. -/
theorem grows_putBlob (h : r.Hashed) (only : Key → Prop) (name : Text) (content : Bytes) :
    Grows only r
      { r with blobs := Assoc.put ⟨name, sha256Digest content⟩ content r.blobs } where
  hashed := by
    intro key content' hkey hstart
    rw [Assoc.lookup_put] at hkey
    split_ifs at hkey with heq
    · cases hkey
      rw [heq]
    · exact h key content' hkey hstart
  listsReferrers := rfl
  blob := by
    intro key content' hkey
    rw [Assoc.lookup_put]
    split_ifs with heq
    · -- The blob that was there had the same digest.
      refine ⟨content, rfl, ?_⟩
      have hstart : key.reference.startsWith "sha256:" = true := by
        rw [heq]
        exact startsWith_sha256Digest content
      rw [h key content' hkey hstart, heq]
    · exact ⟨content', hkey, rfl⟩
  tagged := fun _ _ => rfl
  pushed := fun hkey => ⟨_, hkey, .inl rfl⟩

theorem grows_uploads (h : r.Hashed) (only : Key → Prop) (count : Nat) :
    Grows only r { r with uploads := count } :=
  ⟨h, rfl, fun hkey => ⟨_, hkey, rfl⟩, fun _ _ => rfl, fun hkey => ⟨_, hkey, .inl rfl⟩⟩

/-- The reply to the start of an upload. -/
theorem serve_start (h : repository.Parsed) :
    serve r (Remote.startRequest o repository) =
      (.response ⟨202, [("Location", location repository.path (r.uploads + 1))], []⟩,
        { r with uploads := r.uploads + 1 }) := by
  obtain ⟨t, htarget, -, hquery⟩ := Remote.query?_uploads (o := o) h
  have hrespond : r.respond (Remote.startRequest o repository) =
      (⟨202, [("Location", location repository.path (r.uploads + 1))], []⟩,
        { r with uploads := r.uploads + 1 }) := by
    have hurl : (Remote.startRequest o repository).url = Remote.uploadsUrl o repository := rfl
    rw [respond, hurl, htarget]
    simp only [hquery]
    rfl
  rw [serve, hrespond]
  rfl

/-- The reply to the content of an upload, and the registry that took it. -/
theorem serve_content (h : repository.Parsed) {count : Nat} {url : Text}
    (hjoin : Url.join (Remote.uploadsUrl o repository) (location repository.path count) = .ok url)
    (content : Bytes) :
    ∃ name, uploadName? o repository = some name ∧
      serve r (Remote.contentRequest o url content) =
        (.response (answer 201), { r with
          blobs := Assoc.put ⟨name, sha256Digest content⟩ content r.blobs }) := by
  obtain ⟨t, name, htarget, hquery, hname⟩ := query?_location h hjoin
  refine ⟨_, hname, ?_⟩
  have hrespond : r.respond (Remote.contentRequest o url content) = (answer 201, { r with
      blobs := Assoc.put ⟨t.host ++ "/" ++ name, sha256Digest content⟩ content r.blobs }) := by
    have hurl : (Remote.contentRequest o url content).url = url := rfl
    rw [respond, hurl, htarget]
    simp only [hquery]
    rw [upload, if_neg (by simp [Remote.contentRequest, RemoteOptions.request])]
    simp [Remote.contentRequest, RemoteOptions.request]
  rw [serve, hrespond]
  rfl

theorem readLocation_started {count : Nat} {url : Text}
    (h : Remote.readLocation o repository
      (RawResponse.mk 202 [("Location", location repository.path count)] []).readUtf8 =
        .ok url) :
    Url.join (Remote.uploadsUrl o repository) (location repository.path count) = .ok url := by
  obtain ⟨told, htold, -, -, hjoin⟩ := Remote.readLocation_eq_ok_iff.1 h
  have hheader : (RawResponse.mk 202 [("Location", location repository.path count)] []).header?
      "Location" = some (location repository.path count) := by
    simp [RawResponse.header?]
  rw [RawResponse.readUtf8_toRawResponse, hheader, Option.some.injEq] at htold
  rwa [htold]

/-- The reply to the question whether a content is there. -/
theorem serve_presence (h : repository.Parsed) (content : Bytes) :
    serve r (Remote.blobRequest o .head repository (sha256Digest content)) =
      (.response ⟨if (Assoc.lookup (keyOf repository (sha256Digest content)) r.blobs).isSome then
        200 else 404, [], []⟩, r) := by
  obtain ⟨t, htarget, hhost, hquery⟩ :=
    Remote.query?_blob (o := o) h (Remote.whole_sha256Digest content)
  have hkey : (⟨t.host ++ "/" ++ repository.path, sha256Digest content⟩ : Key) =
      keyOf repository (sha256Digest content) := by rw [hhost]; rfl
  have hurl : (Remote.blobRequest o .head repository (sha256Digest content)).url =
      o.url repository ("blobs/" ++ sha256Digest content) := rfl
  rw [serve, respond, hurl, htarget]
  simp only [hquery, hkey]
  cases Assoc.lookup (keyOf repository (sha256Digest content)) r.blobs <;> rfl

/-- What the upload of a content may leave. -/
inductive Uploaded (o : RemoteOptions) (repository : Repository) (content : Bytes)
    (r : Registry) : Registry → Prop where
  /-- The content is there, or that is not told. -/
  | kept : Uploaded o repository content r r
  /-- An upload is started, and the location is not understood. -/
  | started : Uploaded o repository content r { r with uploads := r.uploads + 1 }
  /-- The content was not there, and it is added where uploads are sent. -/
  | added {name : Text} (hname : uploadName? o repository = some name)
    (habsent : Assoc.lookup (keyOf repository (sha256Digest content)) r.blobs = none) :
    Uploaded o repository content r
      { r with
        blobs := Assoc.put ⟨name, sha256Digest content⟩ content r.blobs
        uploads := r.uploads + 1 }

theorem uploaded (hparsed : repository.Parsed) {content : Bytes}
    {res : Except RemoteFailure Text} (hxs : Yields (Remote.uploadBlob o repository content) xs res)
    (hs : Served serve r xs r') : Uploaded o repository content r r' := by
  have hhead := serve_presence (r := r) (o := o) hparsed content
  cases Remote.uploadCourse hxs with
  | present _ | untold _ =>
    obtain ⟨-, rfl⟩ := hs
    rw [hhead]
    exact .kept
  | notStarted _ _ =>
    obtain ⟨-, -, rfl⟩ := hs
    rw [hhead, serve_start hparsed]
    exact .started
  | @sent p start url _ hp hstart =>
    obtain ⟨hpresence, hreply, -, rfl⟩ := hs
    simp only [hhead, serve_start hparsed] at hpresence hreply ⊢
    cases hreply
    obtain ⟨name, hname, hserve⟩ := serve_content (r := { r with uploads := r.uploads + 1 })
      hparsed (readLocation_started hstart) content
    rw [hserve]
    refine .added hname ?_
    cases hpresence
    simpa using hp

/-! ## Attempts that grow a registry -/

/-- Whatever comes of the attempt, the registry has grown. -/
def Growing {ε α : Type} (only : Key → Prop) (attempt : Attempt ε α) : Prop :=
  ∀ ⦃r r' : Registry⦄ ⦃xs : List Exchange⦄ ⦃res : Except ε α⦄, r.Hashed →
    Yields attempt xs res → Served serve r xs r' → Grows only r r'

theorem growing_of_reads {ε α : Type} (only : Key → Prop) {attempt : Attempt ε α}
    (h : Sends Request.Reads attempt) : Growing only attempt := by
  intro r r' xs res hr hxs hs
  rw [(served_reads (h hxs) hs).1]
  exact .refl hr

theorem Growing.bind {ε α β : Type} {only : Key → Prop} {attempt : Attempt ε α}
    {f : α → Attempt ε β} (h : Growing only attempt) (hf : ∀ a, Growing only (f a)) :
    Growing only (attempt >>= f) := by
  intro r r' xs res hr hxs hs
  rcases Attempt.yields_bind.1 hxs with ⟨e, he, -⟩ | ⟨ys, zs, a, rfl, ha, hres⟩
  · exact h hr he hs
  · obtain ⟨middle, hys, hzs⟩ := Session.served_append.1 hs
    have hfirst := h hr ha hys
    exact hfirst.trans (hf a hfirst.hashed hres hzs)

/-- The upload of a blob grows a registry without any change of a tag. -/
theorem growing_uploadBlob (hparsed : repository.Parsed) (only : Key → Prop) (content : Bytes) :
    Growing only (Remote.uploadBlob o repository content) := by
  intro r r' xs res h hxs hs
  cases uploaded hparsed hxs hs with
  | kept => exact .refl h
  | started => exact grows_uploads h only _
  | @added name _ _ =>
    have hcount := grows_uploads h only (r.uploads + 1)
    exact hcount.trans (grows_putBlob hcount.hashed only name content)

/-- The upload of the parts of an image grows a registry without any change of a tag. -/
theorem growing_uploadParts (hparsed : repository.Parsed) (only : Key → Prop) (config : Bytes)
    (layers : List Layer) : Growing only (Remote.uploadParts o repository config layers) := by
  refine (growing_uploadBlob hparsed only config).bind ?_
  intro _
  induction layers with
  | nil => exact growing_of_reads only (Attempt.sends_pure _)
  | cons layer rest ih => exact (growing_uploadBlob hparsed only _).bind fun _ => ih

/-! ## Pushing a manifest -/

/-- Everything that the manifest names is there as a blob of the repository. -/
def HasParts (r : Registry) (name : Text) (manifest : Json) : Prop :=
  ∃ digests, namedDigests? manifest = some digests ∧ ∀ d ∈ digests, r.hasBlob name d = true

/-- A manifest is refused, or its parts are there and it is kept under the reference and under
its digest. -/
theorem takeManifest_cases (r : Registry) (name reference : Text) (content : Bytes) :
    (∃ body, r.takeManifest name reference content = (answer 400 body, r)) ∨
    ∃ v referrers, Json.readBytes content = .ok v ∧ r.HasParts name v ∧
      r.takeManifest name reference content = (answer 201,
        { r with
          manifests := Assoc.put ⟨name, sha256Digest content⟩ { content }
            (Assoc.put ⟨name, reference⟩ { content } r.manifests)
          referrers }) := by
  rw [takeManifest]
  cases hread : Json.readBytes content with
  | error e => exact .inl ⟨_, rfl⟩
  | ok v =>
    dsimp only [Except.toOption]
    cases hdigests : namedDigests? v with
    | none => exact .inl ⟨_, rfl⟩
    | some digests =>
      dsimp only
      split_ifs with hall
      · exact .inl ⟨_, rfl⟩
      · refine .inr ⟨v, _, rfl, ⟨digests, hdigests, ?_⟩, rfl⟩
        simpa using hall

/-- A pushed manifest is taken or refused. -/
theorem serve_push (hparsed : repository.Parsed) {reference : Text}
    (hwhole : Remote.Whole reference) (manifest : Bytes) (mediaType : Text) :
    serve r (Remote.pushRequest o repository reference manifest mediaType) =
      (.response (r.takeManifest repository.toText reference manifest).1,
        (r.takeManifest repository.toText reference manifest).2) := by
  obtain ⟨t, htarget, hhost, hquery⟩ := Remote.query?_manifest (o := o) hparsed hwhole
  have hrespond : r.respond (Remote.pushRequest o repository reference manifest mediaType) =
      r.takeManifest repository.toText reference manifest := by
    have hurl : (Remote.pushRequest o repository reference manifest mediaType).url =
        o.url repository ("manifests/" ++ reference) := rfl
    rw [respond, hurl, htarget]
    simp only [hquery, hhost]
    rfl
  rw [serve, hrespond]
  rfl

/-- Taking a manifest changes at most the tag to which it is pushed. -/
theorem grows_takeManifest (h : r.Hashed) {name reference : Text} {content : Bytes}
    (referrers : Assoc Key (List Text)) :
    Grows (fun key => key = ⟨name, reference⟩) r
      { r with
        manifests := Assoc.put ⟨name, sha256Digest content⟩ { content }
          (Assoc.put ⟨name, reference⟩ { content } r.manifests)
        referrers } where
  hashed := h
  listsReferrers := rfl
  blob := fun hkey => ⟨_, hkey, rfl⟩
  tagged := by
    intro key hkey honly
    have hdigest : key ≠ ⟨name, sha256Digest content⟩ := by
      rintro rfl
      rw [startsWith_sha256Digest] at hkey
      cases hkey
    rw [Assoc.lookup_put, if_neg hdigest, Assoc.lookup_put, if_neg honly]
  pushed := by
    intro key m hkey
    rw [Assoc.lookup_put, Assoc.lookup_put]
    split_ifs
    · exact ⟨_, rfl, .inr rfl⟩
    · exact ⟨_, rfl, .inr rfl⟩
    · exact ⟨m, hkey, .inl rfl⟩

/-! ## Writing an image -/

/-- The manifest of the image is kept under the reference, and its layers are blobs of the
repository. -/
structure Keeps (r : Registry) (repository : Repository) (reference : Text)
    (layers : List Layer) (placement : Placement) : Prop where
  manifest : ∃ config bytes, (imageManifest placement config layers).canonical = .ok bytes ∧
    Assoc.lookup (keyOf repository reference) r.manifests = some { content := bytes }
  blob : ∀ l ∈ layers, ∃ content, Assoc.lookup (keyOf repository l.digest) r.blobs = some content

/-- The digests that the manifest of an image names. -/
theorem namedDigests?_imageManifest (placement : Placement) (config : Bytes)
    (layers : List Layer) :
    namedDigests? (Json.normal (imageManifest placement config layers)) =
      some (.text (sha256Digest config) :: layers.map fun l => .text l.digest) := by
  have hlayers : (layers.map fun l => Json.normal l.descriptor.toJson).mapM digestOf? =
      some (layers.map fun l => Json.text l.digest) := by
    induction layers with
    | nil => rfl
    | cons l rest ih =>
      rw [List.map_cons, List.mapM_cons, ih, digestOf?, Descriptor.member?_digest]
      rfl
  simp only [namedDigests?, member?_config, member?_layers, Option.bind_some, digestOf?,
    Descriptor.member?_digest, Json.items?] at hlayers ⊢
  simp only [Option.bind_eq_bind, Option.bind_some, hlayers]
  rfl

/-- The digest of the subject that the manifest of an image names. -/
theorem subject?_imageManifest (placement : Placement) (config : Bytes) (layers : List Layer) :
    subject? (Json.normal (imageManifest placement config layers)) =
      match placement with
      | .tag _ => none
      | .subject d _ _ => some d.digest := by
  rw [subject?, member?_subject]
  cases placement with
  | tag reference => rfl
  | subject d artifactType annotations =>
    simp only [Option.bind_some, digestOf?, Descriptor.member?_digest]
    rfl

theorem hasBlob_text {name digest : Text} (h : r.hasBlob name (.text digest) = true) :
    ∃ content, Assoc.lookup ⟨name, digest⟩ r.blobs = some content :=
  Option.isSome_iff_exists.1 h

/-- Pushing the manifest of an image changes at most its tag, and only if it succeeds. -/
theorem grows_push (h : r.Hashed) (hparsed : repository.Parsed) {placement : Placement}
    {config manifest : Bytes} {layers : List Layer}
    (hmanifest : (imageManifest placement config layers).canonical = .ok manifest)
    (hwhole : Remote.Whole (placement.reference manifest)) {reply : Reply}
    (hs : Served serve r [(Remote.pushRequest o repository (placement.reference manifest) manifest
      MediaType.imageManifest, reply)] r') :
    (Grows (fun _ => False) r r' ∧ ¬ Remote.Taken reply) ∨
    (Grows (fun key => key = keyOf repository (placement.reference manifest)) r r' ∧
      Remote.Taken reply ∧
      Keeps r' repository (placement.reference manifest) layers placement) := by
  obtain ⟨hreply, rfl⟩ := hs
  simp only [serve_push hparsed hwhole] at hreply ⊢
  rcases takeManifest_cases r repository.toText (placement.reference manifest) manifest with
    ⟨body, hrefused⟩ | ⟨v, referrers, hread, ⟨digests, hdigests, hparts⟩, htaken⟩
  · left
    rw [hrefused] at hreply ⊢
    refine ⟨.refl h, ?_⟩
    rintro ⟨p, rfl, hp⟩
    cases hreply
    simp [answer] at hp
  · right
    rw [htaken] at hreply ⊢
    refine ⟨grows_takeManifest h referrers, ⟨_, hreply, .inr (.inl rfl)⟩,
      ⟨config, manifest, hmanifest, ?_⟩, fun l hl => ?_⟩
    · dsimp only
      rw [Assoc.lookup_put]
      split_ifs
      · rfl
      · rw [Assoc.lookup_put, if_pos rfl]
    · rw [readBytes_manifest hmanifest] at hread
      cases hread
      rw [namedDigests?_imageManifest] at hdigests
      cases hdigests
      exact hasBlob_text (hparts (.text l.digest) (by simpa using .inr ⟨l, hl, rfl⟩))

/-- Writing an image grows a registry. A tag changes only if the image is put there and
everything succeeds; then the registry keeps the image. -/
theorem grows_writeImage (h : r.Hashed) (hparsed : repository.Parsed) {placement : Placement}
    {layers : List Layer} {res : Except RemoteFailure Text}
    (hxs : Yields (Remote.writeImage o repository layers placement) xs res)
    (hs : Served serve r xs r')
    (hwhole : ∀ tag, placement = .tag tag → Remote.Whole tag) :
    Grows (fun key => (∃ digest, res = .ok digest) ∧
      ∃ tag, placement = .tag tag ∧ key = keyOf repository tag) r r' ∧
    ((∃ digest, res = .ok digest) → ∀ tag, placement = .tag tag →
      Keeps r' repository tag layers placement) := by
  obtain ⟨config, -, hcourse⟩ := Remote.writeCourse hxs
  cases hcourse with
  | notUploaded hupload | unwritable hupload _ =>
    refine ⟨growing_uploadParts hparsed _ _ _ h hupload hs, ?_⟩
    rintro ⟨digest, hok⟩
    cases hok
  | @pushed ys manifest reply hupload hmanifest =>
    obtain ⟨middle, hys, hpush⟩ := Session.served_append.1 hs
    have hparts (only : Key → Prop) : Grows only r middle :=
      growing_uploadParts hparsed only _ _ h hupload hys
    have hreference : Remote.Whole (placement.reference manifest) := by
      cases placement with
      | tag tag => exact hwhole tag rfl
      | subject d artifactType annotations => exact Remote.whole_sha256Digest manifest
    rw [Remote.understood_pushed_iff]
    rcases grows_push (hparts fun _ => False).hashed hparsed hmanifest hreference hpush with
      ⟨hgrows, hrefused⟩ | ⟨hgrows, htaken, hkeeps⟩
    · exact ⟨(hparts _).trans (hgrows.mono fun _ _ hfalse => hfalse.elim),
        fun htaken => absurd htaken hrefused⟩
    · refine ⟨(hparts _).trans (hgrows.mono fun key hkey heq => ⟨htaken, ?_⟩), fun _ tag htag => ?_⟩
      · cases placement with
        | tag tag => exact ⟨tag, rfl, heq⟩
        | subject d artifactType annotations =>
          rw [heq, Placement.reference, startsWith_sha256Digest] at hkey
          cases hkey
      · subst htag
        exact hkeeps

end Registry
end Signet
