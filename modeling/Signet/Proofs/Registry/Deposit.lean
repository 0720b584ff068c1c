import Mathlib
import Signet.Proofs.Registry.Reading

/-!
# What writing an image does to a registry

The registry after an attempt is a function of the registry before it, as the outcome is. An
image is written exactly if it can be rendered and its contents can be uploaded: they are all
there, or uploads are sent to the repository that is written to. Then every content that was
not there is added under its digest, no other blob changes, and the manifest is kept. So
writing once more what is there changes nothing.

## Main definitions

* `Registry.after` — the registry after an attempt.
* `Registry.withBlobs` — the registry with contents that are added unless they are there.
* `Registry.keep` — the registry that keeps one more manifest.
* `Registry.CanUpload` — the contents are there, or uploads are sent to the repository.
-/
namespace Signet

open Attempt (Yields Sends)
open Session (Served)

namespace Registry

variable {ε α β : Type} {r r' : Registry} {o : RemoteOptions} {repository : Repository}

/-! ## Effects -/

def after (r : Registry) (attempt : Attempt ε α) : Registry :=
  (Session.run serve attempt.run r).state

theorem after_of_reads {attempt : Attempt ε α} (h : Sends Request.Reads attempt) :
    after r attempt = r :=
  (served_reads (h (Attempt.yields_run serve attempt r)) (Session.served_run serve _ r)).1

/-- What is decided by a course that the registry answers. -/
theorem effect_of_yields {attempt : Attempt ε α} {xs : List Exchange} {res : Except ε α}
    (h : Yields attempt xs res) (hs : Served serve r xs r') :
    outcome r attempt = res ∧ after r attempt = r' :=
  have heq := Session.run_eq_of_yields h hs
  ⟨heq.1, heq.2.1⟩

theorem outcome_bind_of_ok {attempt : Attempt ε α} {a : α} (h : outcome r attempt = .ok a)
    (f : α → Attempt ε β) : outcome r (attempt >>= f) = outcome (after r attempt) (f a) := by
  have hrun : (attempt >>= f).run = attempt.run >>= ExceptT.bindCont f := rfl
  rw [outcome] at h
  rw [outcome, hrun, Session.run_bind]
  dsimp only
  rw [h]
  rfl

theorem after_bind_of_ok {attempt : Attempt ε α} {a : α} (h : outcome r attempt = .ok a)
    (f : α → Attempt ε β) : after r (attempt >>= f) = after (after r attempt) (f a) := by
  have hrun : (attempt >>= f).run = attempt.run >>= ExceptT.bindCont f := rfl
  rw [outcome] at h
  rw [after, hrun, Session.run_bind]
  dsimp only
  rw [h]
  rfl

theorem bind_of_error {attempt : Attempt ε α} {e : ε} (h : outcome r attempt = .error e)
    (f : α → Attempt ε β) :
    outcome r (attempt >>= f) = .error e ∧ after r (attempt >>= f) = after r attempt := by
  have hrun : (attempt >>= f).run = attempt.run >>= ExceptT.bindCont f := rfl
  rw [outcome] at h
  rw [outcome, after, after, hrun, Session.run_bind]
  dsimp only
  rw [h]
  exact ⟨rfl, rfl⟩

/-- An attempt behind another one succeeds if both do, one after the other. -/
theorem outcome_bind_ok_iff {attempt : Attempt ε α} {f : α → Attempt ε β} {b : β} :
    outcome r (attempt >>= f) = .ok b ↔
      ∃ a, outcome r attempt = .ok a ∧ outcome (after r attempt) (f a) = .ok b := by
  cases h : outcome r attempt with
  | error e => simp [(bind_of_error h f).1]
  | ok a => simp [outcome_bind_of_ok h]

theorem after_ask (q : Request) (understand : Response → Except RemoteFailure α) :
    after r (Remote.ask q understand) = (serve r q).2 := by
  have hyields : Yields (Remote.ask q understand) [(q, (serve r q).1)]
      (understand (replyTo r q)) := Remote.yields_ask.2 ⟨_, rfl, rfl⟩
  exact (effect_of_yields hyields ⟨rfl, rfl⟩).2

end Registry

/-- Attempts with the same courses do the same to a registry. -/
theorem Attempt.Same.effect {ε α : Type} {a b : Attempt ε α} (h : Attempt.Same a b)
    (r : Registry) : r.outcome a = r.outcome b ∧ r.after a = r.after b :=
  have hagrees := h.agrees Registry.serve r
  ⟨hagrees.result, hagrees.state⟩

namespace Registry

variable {ε α β : Type} {r r' : Registry} {o : RemoteOptions} {repository : Repository}
  {config manifest : Bytes} {layers : List Layer} {placement : Placement}

/-! ## Contents that are added -/

/-- The content, or one with the same digest, is a blob of the repository. -/
def HasContent (r : Registry) (repository : Repository) (content : Bytes) : Prop :=
  (Assoc.lookup (keyOf repository (sha256Digest content)) r.blobs).isSome = true

instance (r : Registry) (repository : Repository) : DecidablePred (r.HasContent repository) :=
  fun _ => inferInstanceAs (Decidable (_ = true))

/-- The registry with a content that is added unless it is there. -/
def withBlob (r : Registry) (repository : Repository) (content : Bytes) : Registry :=
  if r.HasContent repository content then r
  else
    { r with
      blobs := Assoc.put (keyOf repository (sha256Digest content)) content r.blobs
      uploads := r.uploads + 1 }

/-- The registry with contents that are added one after the other. -/
def withBlobs (r : Registry) (repository : Repository) (contents : List Bytes) : Registry :=
  contents.foldl (fun r content => r.withBlob repository content) r

theorem withBlob_of_hasContent {content : Bytes} (h : r.HasContent repository content) :
    r.withBlob repository content = r := if_pos h

theorem manifests_withBlob (content : Bytes) :
    (r.withBlob repository content).manifests = r.manifests := by
  unfold withBlob
  split <;> rfl

theorem referrers_withBlob (content : Bytes) :
    (r.withBlob repository content).referrers = r.referrers := by
  unfold withBlob
  split <;> rfl

theorem listsReferrers_withBlob (content : Bytes) :
    (r.withBlob repository content).listsReferrers = r.listsReferrers := by
  unfold withBlob
  split <;> rfl

/-- A blob that is there stays, and the content is found where nothing was. -/
theorem lookup_withBlob (content : Bytes) (key : Key) :
    Assoc.lookup key (r.withBlob repository content).blobs =
      (Assoc.lookup key r.blobs).or
        (if keyOf repository (sha256Digest content) = key then some content else none) := by
  by_cases h : r.HasContent repository content
  · obtain ⟨found, hfound⟩ := Option.isSome_iff_exists.1 h
    rw [withBlob_of_hasContent h]
    split_ifs with hkey
    · rw [← hkey, hfound, Option.some_or]
    · rw [Option.or_none]
  · have hnone : Assoc.lookup (keyOf repository (sha256Digest content)) r.blobs = none := by
      simpa [HasContent] using h
    rw [withBlob, if_neg h, Assoc.lookup_put]
    by_cases hkey : keyOf repository (sha256Digest content) = key
    · rw [if_pos hkey.symm, if_pos hkey, ← hkey, hnone, Option.none_or]
    · rw [if_neg (Ne.symm hkey), if_neg hkey, Option.or_none]

@[simp] theorem withBlobs_nil : r.withBlobs repository [] = r := rfl

theorem withBlobs_cons (content : Bytes) (rest : List Bytes) :
    r.withBlobs repository (content :: rest) =
      (r.withBlob repository content).withBlobs repository rest := rfl

@[simp] theorem manifests_withBlobs (contents : List Bytes) :
    (r.withBlobs repository contents).manifests = r.manifests := by
  induction contents generalizing r with
  | nil => rfl
  | cons content rest ih => rw [withBlobs_cons, ih, manifests_withBlob]

@[simp] theorem referrers_withBlobs (contents : List Bytes) :
    (r.withBlobs repository contents).referrers = r.referrers := by
  induction contents generalizing r with
  | nil => rfl
  | cons content rest ih => rw [withBlobs_cons, ih, referrers_withBlob]

@[simp] theorem listsReferrers_withBlobs (contents : List Bytes) :
    (r.withBlobs repository contents).listsReferrers = r.listsReferrers := by
  induction contents generalizing r with
  | nil => rfl
  | cons content rest ih => rw [withBlobs_cons, ih, listsReferrers_withBlob]

/-- Blobs that are there stay, and the first of the contents is found where nothing was. -/
theorem lookup_withBlobs (contents : List Bytes) (key : Key) :
    Assoc.lookup key (r.withBlobs repository contents).blobs =
      (Assoc.lookup key r.blobs).or
        (contents.find? fun content => keyOf repository (sha256Digest content) = key) := by
  induction contents generalizing r with
  | nil => rw [withBlobs_nil, List.find?_nil, Option.or_none]
  | cons content rest ih =>
    rw [withBlobs_cons, ih, lookup_withBlob, Option.or_assoc, List.find?_cons]
    by_cases hkey : keyOf repository (sha256Digest content) = key
    · simp [hkey]
    · simp [hkey]

theorem HasContent.withBlob {content : Bytes} (h : r.HasContent repository content)
    (other : Bytes) : (r.withBlob repository other).HasContent repository content := by
  rw [HasContent, lookup_withBlob, Option.isSome_or, h]
  rfl

/-- All contents that are added are there afterwards. -/
theorem hasContent_withBlobs {contents : List Bytes} {content : Bytes} (h : content ∈ contents) :
    (r.withBlobs repository contents).HasContent repository content := by
  rw [HasContent, lookup_withBlobs, Option.isSome_or, Bool.or_eq_true]
  exact .inr (List.find?_isSome.2 ⟨content, h, decide_eq_true rfl⟩)

theorem withBlobs_of_hasContent {contents : List Bytes}
    (h : ∀ content ∈ contents, r.HasContent repository content) :
    r.withBlobs repository contents = r := by
  induction contents with
  | nil => rfl
  | cons content rest ih =>
    rw [withBlobs_cons, withBlob_of_hasContent (h content (by simp)),
      ih fun other hother => h other (by simp [hother])]

/-! ## Uploading -/

/-- The registry tells whether it has a blob. -/
theorem outcome_blobExists (h : repository.Parsed) (content : Bytes) :
    outcome r (Remote.blobExists o repository (sha256Digest content)) =
      .ok (decide (r.HasContent repository content)) := by
  rw [Remote.blobExists, outcome_ask, Remote.readPresence_eq_ok_iff,
    replyTo_of_serve (serve_presence h content)]
  simp only [decide_eq_true_eq]
  rfl

theorem after_blobExists (content : Bytes) :
    after r (Remote.blobExists o repository (sha256Digest content)) = r :=
  after_of_reads (Remote.sends_ask (Remote.reads_blobRequest rfl _))

/-- A location that the registry told is understood. -/
theorem readLocation_location {count : Nat} {url : Text}
    (hjoin : Url.join (Remote.uploadsUrl o repository) (location repository.path count) =
      .ok url) :
    Remote.readLocation o repository
      (RawResponse.mk 202 [("Location", location repository.path count)] []).readUtf8 =
        .ok url := by
  have hheader : (RawResponse.mk 202 [("Location", location repository.path count)] []).header?
      "Location" = some (location repository.path count) := by
    simp [RawResponse.header?]
  exact Remote.readLocation_eq_ok_iff.2
    ⟨_, hheader, rfl, by simp [location, Text.ofString], hjoin⟩

/-- A content that is there, or that is sent to the repository, is uploaded. -/
theorem uploadBlob_eq (h : repository.Parsed) {content : Bytes}
    (hcan : uploadName? o repository = some repository.toText ∨ r.HasContent repository content) :
    outcome r (Remote.uploadBlob o repository content) = .ok (sha256Digest content) ∧
      after r (Remote.uploadBlob o repository content) = r.withBlob repository content := by
  have hexists := outcome_blobExists (r := r) (o := o) h content
  by_cases hhas : r.HasContent repository content
  · rw [decide_eq_true hhas] at hexists
    rw [withBlob_of_hasContent hhas]
    exact ⟨(outcome_bind_of_ok hexists _).trans rfl,
      (after_bind_of_ok hexists _).trans (after_blobExists content)⟩
  · have hname := hcan.resolve_right hhas
    obtain ⟨url, hjoin⟩ := exists_join_location h hname (r.uploads + 1)
    obtain ⟨name, hname', hserve⟩ :=
      serve_content (r := { r with uploads := r.uploads + 1 }) h hjoin content
    obtain rfl : repository.toText = name := Option.some.inj (hname.symm.trans hname')
    have hstart : outcome r (Remote.ask (Remote.startRequest o repository)
        (Remote.readLocation o repository)) = .ok url ∧
          after r (Remote.ask (Remote.startRequest o repository)
            (Remote.readLocation o repository)) = { r with uploads := r.uploads + 1 } := by
      rw [outcome_ask, after_ask, replyTo_of_serve (serve_start h), serve_start h]
      exact ⟨readLocation_location hjoin, rfl⟩
    have hsent : outcome { r with uploads := r.uploads + 1 }
        (Remote.ask (Remote.contentRequest o url content)
          (Remote.checkUploaded repository (sha256Digest content))) = .ok (sha256Digest content) ∧
          after { r with uploads := r.uploads + 1 }
            (Remote.ask (Remote.contentRequest o url content)
              (Remote.checkUploaded repository (sha256Digest content))) =
            r.withBlob repository content := by
      rw [outcome_ask, after_ask, replyTo_of_serve hserve, hserve, withBlob, if_neg hhas]
      exact ⟨Remote.checkUploaded_eq_ok_iff.2 ⟨.inl rfl, rfl⟩, rfl⟩
    rw [decide_eq_false hhas] at hexists
    refine ⟨(outcome_bind_of_ok hexists _).trans ?_, (after_bind_of_ok hexists _).trans ?_⟩
    · rw [after_blobExists]
      refine (outcome_bind_of_ok hstart.1 _).trans ?_
      rw [hstart.2]
      exact hsent.1
    · rw [after_blobExists]
      refine (after_bind_of_ok hstart.1 _).trans ?_
      rw [hstart.2]
      exact hsent.2

/-- The contents are all there, or uploads are sent to the repository. -/
def CanUpload (o : RemoteOptions) (r : Registry) (repository : Repository)
    (contents : List Bytes) : Prop :=
  uploadName? o repository = some repository.toText ∨
    ∀ content ∈ contents, r.HasContent repository content

theorem CanUpload.head {content : Bytes} {rest : List Bytes}
    (h : CanUpload o r repository (content :: rest)) :
    uploadName? o repository = some repository.toText ∨ r.HasContent repository content :=
  h.imp_right fun h => h content (by simp)

theorem CanUpload.tail {content : Bytes} {rest : List Bytes}
    (h : CanUpload o r repository (content :: rest)) :
    CanUpload o (r.withBlob repository content) repository rest :=
  h.imp_right fun h other hother => (h other (by simp [hother])).withBlob content

theorem uploadLayers_eq (h : repository.Parsed)
    (hcan : CanUpload o r repository (layers.map Layer.content)) :
    outcome r (Remote.uploadLayers o repository layers) = .ok () ∧
      after r (Remote.uploadLayers o repository layers) =
        r.withBlobs repository (layers.map Layer.content) := by
  induction layers generalizing r with
  | nil => exact ⟨rfl, rfl⟩
  | cons layer rest ih =>
    obtain ⟨houtcome, hafter⟩ := uploadBlob_eq h hcan.head
    have hrest := ih hcan.tail
    rw [← hafter] at hrest
    refine ⟨(outcome_bind_of_ok houtcome _).trans hrest.1,
      (after_bind_of_ok houtcome _).trans (hrest.2.trans ?_)⟩
    rw [hafter]
    rfl

/-- Contents that can be uploaded are uploaded. -/
theorem uploadParts_eq (h : repository.Parsed)
    (hcan : CanUpload o r repository (config :: layers.map Layer.content)) :
    outcome r (Remote.uploadParts o repository config layers) = .ok () ∧
      after r (Remote.uploadParts o repository config layers) =
        r.withBlobs repository (config :: layers.map Layer.content) := by
  obtain ⟨houtcome, hafter⟩ := uploadBlob_eq h hcan.head
  have hrest := uploadLayers_eq h hcan.tail
  rw [← hafter] at hrest
  refine ⟨(outcome_bind_of_ok houtcome _).trans hrest.1,
    (after_bind_of_ok houtcome _).trans (hrest.2.trans ?_)⟩
  rw [hafter]
  rfl

/-- Uploads that are sent elsewhere add nothing to the repository. -/
theorem lookup_after_uploadBlob (h : repository.Parsed)
    (hname : uploadName? o repository ≠ some repository.toText) (content : Bytes)
    (reference : Text) :
    Assoc.lookup (keyOf repository reference)
        (after r (Remote.uploadBlob o repository content)).blobs =
      Assoc.lookup (keyOf repository reference) r.blobs := by
  have huploaded := uploaded h (Attempt.yields_run serve (Remote.uploadBlob o repository content) r)
    (Session.served_run serve (Remote.uploadBlob o repository content).run r)
  rw [after]
  generalize (Session.run serve (Remote.uploadBlob o repository content).run r).state = final
    at huploaded
  cases huploaded with
  | kept | started => rfl
  | @added name hname' _ =>
    have hne : keyOf repository reference ≠ ⟨name, sha256Digest content⟩ := by
      intro heq
      rw [hname', (Key.mk.inj heq).1] at hname
      exact hname rfl
    rw [Assoc.lookup_put, if_neg hne]

theorem lookup_after_uploadLayers (h : repository.Parsed)
    (hname : uploadName? o repository ≠ some repository.toText) (reference : Text) :
    Assoc.lookup (keyOf repository reference)
        (after r (Remote.uploadLayers o repository layers)).blobs =
      Assoc.lookup (keyOf repository reference) r.blobs := by
  induction layers generalizing r with
  | nil => rfl
  | cons layer rest ih =>
    have hfirst := lookup_after_uploadBlob (r := r) h hname layer.content reference
    cases hresult : outcome r (Remote.uploadBlob o repository layer.content) with
    | error e =>
      rw [← hfirst, Remote.uploadLayers, (bind_of_error hresult _).2]
    | ok digest =>
      rw [← hfirst, Remote.uploadLayers, after_bind_of_ok hresult, ih]

theorem lookup_after_uploadParts (h : repository.Parsed)
    (hname : uploadName? o repository ≠ some repository.toText) (reference : Text) :
    Assoc.lookup (keyOf repository reference)
        (after r (Remote.uploadParts o repository config layers)).blobs =
      Assoc.lookup (keyOf repository reference) r.blobs := by
  have hfirst := lookup_after_uploadBlob (r := r) h hname config reference
  cases hresult : outcome r (Remote.uploadBlob o repository config) with
  | error e =>
    rw [← hfirst, Remote.uploadParts, (bind_of_error hresult _).2]
  | ok digest =>
    rw [← hfirst, Remote.uploadParts, after_bind_of_ok hresult,
      lookup_after_uploadLayers h hname]

/-! ## Keeping a manifest -/

/-- The digest of the subject that an image names. -/
def subjectDigest? : Placement → Option Text
  | .tag _ => none
  | .subject d _ _ => some d.digest

/-- The lists of referrers with the digest of a manifest, which is listed once at its subject. -/
def noted (r : Registry) (repository : Repository) (digest : Text) :
    Option Text → Assoc Key (List Text)
  | none => r.referrers
  | some subject =>
    let known := (Assoc.lookup (keyOf repository subject) r.referrers).getD []
    Assoc.put (keyOf repository subject) (if digest ∈ known then known else known ++ [digest])
      r.referrers

/-- The registry that keeps a manifest under a reference and under its digest, and notes it at
its subject. -/
def keep (r : Registry) (repository : Repository) (reference : Text) (subject : Option Text)
    (manifest : Bytes) : Registry :=
  { r with
    manifests := Assoc.put (keyOf repository (sha256Digest manifest)) { content := manifest }
      (Assoc.put (keyOf repository reference) { content := manifest } r.manifests)
    referrers := r.noted repository (sha256Digest manifest) subject }

theorem lookup_manifests_keep (reference : Text) (subject : Option Text) (manifest : Bytes)
    (key : Key) :
    Assoc.lookup key (r.keep repository reference subject manifest).manifests =
      if key = keyOf repository (sha256Digest manifest) ∨ key = keyOf repository reference then
        some { content := manifest }
      else Assoc.lookup key r.manifests := by
  have hmanifests : (r.keep repository reference subject manifest).manifests =
      Assoc.put (keyOf repository (sha256Digest manifest)) { content := manifest }
        (Assoc.put (keyOf repository reference) { content := manifest } r.manifests) := rfl
  rw [hmanifests, Assoc.lookup_put, Assoc.lookup_put]
  by_cases hdigest : key = keyOf repository (sha256Digest manifest)
  · simp [hdigest]
  · simp [hdigest]

/-- The manifest of an image whose parts are there is taken. -/
theorem takeManifest_eq
    (hmanifest : (imageManifest placement config layers).canonical = .ok manifest)
    (hparts : ∀ content ∈ config :: layers.map Layer.content, r.HasContent repository content)
    (reference : Text) :
    r.takeManifest repository.toText reference manifest =
      (answer 201, r.keep repository reference (subjectDigest? placement) manifest) := by
  have hall : (Json.text (sha256Digest config) :: layers.map fun l => .text l.digest).all
      (r.hasBlob repository.toText) = true := by
    simp only [List.all_eq_true, List.mem_cons, List.mem_map]
    rintro v (rfl | ⟨l, hl, rfl⟩)
    · exact hparts config (by simp)
    · exact hparts l.content (by simpa using .inr ⟨l, hl, rfl⟩)
  have hsubject : subject? (Json.normal (imageManifest placement config layers)) =
      subjectDigest? placement := by
    rw [subject?_imageManifest]
    cases placement <;> rfl
  rw [takeManifest, readBytes_manifest hmanifest]
  dsimp only [Except.toOption]
  rw [namedDigests?_imageManifest]
  simp only [hall, hsubject]
  rfl

/-! ## Writing an image -/

/-- What an image is written as. -/
structure Renders (placement : Placement) (layers : List Layer) (config manifest : Bytes) :
    Prop where
  config_eq : (placement.config layers).canonical = .ok config
  manifest_eq : (imageManifest placement config layers).canonical = .ok manifest

/-- The registry to which an image is written. -/
def withImage (r : Registry) (repository : Repository) (placement : Placement)
    (layers : List Layer) (config manifest : Bytes) : Registry :=
  (r.withBlobs repository (config :: layers.map Layer.content)).keep repository
    (placement.reference manifest) (subjectDigest? placement) manifest

theorem outcome_canonical {v : Json} {bytes : Bytes} :
    outcome r (Remote.canonical v) = .ok bytes ↔ v.canonical = .ok bytes := by
  rw [Remote.canonical]
  cases v.canonical with
  | ok written => rw [outcome_pure]; simp
  | error e =>
    have hthrow : outcome r (throw (.fault (.unwritable e)) : Remote Bytes) =
        .error (.fault (.unwritable e)) := rfl
    rw [hthrow]
    simp

theorem after_canonical (v : Json) : after r (Remote.canonical v) = r := by
  rw [Remote.canonical]
  cases v.canonical <;> rfl

/-- Pushing the manifest of an image whose parts are there succeeds. -/
theorem putManifest_eq (h : repository.Parsed)
    (hmanifest : (imageManifest placement config layers).canonical = .ok manifest)
    (hparts : ∀ content ∈ config :: layers.map Layer.content, r.HasContent repository content)
    {reference : Text} (hwhole : Remote.Whole reference) :
    outcome r (Remote.putManifest o repository reference manifest MediaType.imageManifest) =
        .ok (sha256Digest manifest) ∧
      after r (Remote.putManifest o repository reference manifest MediaType.imageManifest) =
        r.keep repository reference (subjectDigest? placement) manifest := by
  have hserve := serve_push (r := r) (o := o) h hwhole manifest MediaType.imageManifest
  rw [takeManifest_eq hmanifest hparts] at hserve
  rw [Remote.putManifest, outcome_ask, after_ask, replyTo_of_serve hserve, hserve]
  exact ⟨if_pos (.inr (.inl rfl)), rfl⟩

/-- The manifest of an image is refused, or its parts are there and it is kept. -/
theorem takeManifest_image_cases (r : Registry) (repository : Repository)
    (hmanifest : (imageManifest placement config layers).canonical = .ok manifest)
    (reference : Text) :
    (∃ body, r.takeManifest repository.toText reference manifest = (answer 400 body, r)) ∨
    (∀ content ∈ config :: layers.map Layer.content, r.HasContent repository content) ∧
      r.takeManifest repository.toText reference manifest =
        (answer 201, r.keep repository reference (subjectDigest? placement) manifest) := by
  rcases takeManifest_cases r repository.toText reference manifest with
    hrefused | ⟨v, referrers, hread, ⟨digests, hdigests, hparts⟩, -⟩
  · exact .inl hrefused
  · rw [readBytes_manifest hmanifest] at hread
    cases hread
    rw [namedDigests?_imageManifest] at hdigests
    cases hdigests
    have hthere : ∀ content ∈ config :: layers.map Layer.content,
        r.HasContent repository content := by
      intro content hcontent
      refine hparts (.text (sha256Digest content)) ?_
      rcases List.mem_cons.1 hcontent with rfl | hcontent
      · exact List.mem_cons_self
      · obtain ⟨l, hl, rfl⟩ := List.mem_map.1 hcontent
        exact List.mem_cons_of_mem _ (List.mem_map.2 ⟨l, hl, rfl⟩)
    exact .inr ⟨hthere, takeManifest_eq hmanifest hthere reference⟩

/-- A manifest of an image is taken only if its parts are there. -/
theorem hasContent_of_putManifest (h : repository.Parsed)
    (hmanifest : (imageManifest placement config layers).canonical = .ok manifest)
    {reference digest : Text} (hwhole : Remote.Whole reference)
    (hok : outcome r (Remote.putManifest o repository reference manifest MediaType.imageManifest) =
      .ok digest) :
    ∀ content ∈ config :: layers.map Layer.content, r.HasContent repository content := by
  rw [Remote.putManifest, outcome_ask,
    replyTo_of_serve (serve_push h hwhole manifest MediaType.imageManifest)] at hok
  rcases takeManifest_image_cases r repository hmanifest reference with
    ⟨body, hrefused⟩ | ⟨hthere, -⟩
  · rw [hrefused, Remote.checkPushed, if_neg (by simp [answer])] at hok
    cases hok
  · exact hthere

/-- A rendered image whose contents can be uploaded is written. -/
theorem writeImage_eq (h : repository.Parsed) (hrenders : Renders placement layers config manifest)
    (hcan : CanUpload o r repository (config :: layers.map Layer.content))
    (hwhole : Remote.Whole (placement.reference manifest)) :
    outcome r (Remote.writeImage o repository layers placement) = .ok (sha256Digest manifest) ∧
      after r (Remote.writeImage o repository layers placement) =
        r.withImage repository placement layers config manifest := by
  have hconfig := (outcome_canonical (r := r)).2 hrenders.config_eq
  obtain ⟨huploaded, hwith⟩ := uploadParts_eq h hcan
  have hmanifest (r : Registry) := (outcome_canonical (r := r)).2 hrenders.manifest_eq
  obtain ⟨hpushed, hkept⟩ := putManifest_eq
    (r := r.withBlobs repository (config :: layers.map Layer.content)) (o := o) h
    hrenders.manifest_eq (fun content hcontent => hasContent_withBlobs hcontent) hwhole
  rw [Remote.writeImage_eq, outcome_bind_of_ok hconfig, after_bind_of_ok hconfig, after_canonical,
    outcome_bind_of_ok huploaded, after_bind_of_ok huploaded, hwith,
    outcome_bind_of_ok (hmanifest _), after_bind_of_ok (hmanifest _), after_canonical]
  exact ⟨hpushed, hkept⟩

/-- An image is written only if it is rendered and its contents can be uploaded. -/
theorem canUpload_of_writeImage (h : repository.Parsed)
    (hwhole : ∀ manifest, Remote.Whole (placement.reference manifest)) {digest : Text}
    (hok : outcome r (Remote.writeImage o repository layers placement) = .ok digest) :
    ∃ config manifest, Renders placement layers config manifest ∧
      CanUpload o r repository (config :: layers.map Layer.content) := by
  rw [Remote.writeImage_eq, outcome_bind_ok_iff] at hok
  obtain ⟨config, hconfig, hok⟩ := hok
  rw [after_canonical, outcome_bind_ok_iff] at hok
  obtain ⟨-, -, hok⟩ := hok
  rw [outcome_bind_ok_iff] at hok
  obtain ⟨manifest, hmanifest, hok⟩ := hok
  rw [after_canonical] at hok
  rw [outcome_canonical] at hconfig hmanifest
  refine ⟨config, manifest, ⟨hconfig, hmanifest⟩, ?_⟩
  by_cases hname : uploadName? o repository = some repository.toText
  · exact .inl hname
  · -- Nothing was added to the repository, so everything was there before.
    refine .inr fun content hcontent => ?_
    have hthere := hasContent_of_putManifest h hmanifest (hwhole manifest) hok content hcontent
    rwa [HasContent, lookup_after_uploadParts h hname] at hthere

/-! ## Writing again -/

/-- The manifest is kept under the reference and under its digest, and it is noted at its
subject. -/
structure Kept (r : Registry) (repository : Repository) (reference : Text)
    (subject : Option Text) (manifest : Bytes) : Prop where
  referenced : Assoc.lookup (keyOf repository reference) r.manifests = some { content := manifest }
  named : Assoc.lookup (keyOf repository (sha256Digest manifest)) r.manifests =
    some { content := manifest }
  noted : ∀ digest ∈ subject, ∃ listed,
    Assoc.lookup (keyOf repository digest) r.referrers = some listed ∧
      sha256Digest manifest ∈ listed

/-- A manifest that is kept already is kept without any change. -/
theorem keep_of_kept {reference : Text} {subject : Option Text}
    (h : r.Kept repository reference subject manifest) :
    r.keep repository reference subject manifest = r := by
  have hnoted : r.noted repository (sha256Digest manifest) subject = r.referrers := by
    cases subject with
    | none => rfl
    | some digest =>
      obtain ⟨listed, hlisted, hmem⟩ := h.noted digest rfl
      have hknown : (if sha256Digest manifest ∈ listed then listed
          else listed ++ [sha256Digest manifest]) = listed := if_pos hmem
      simp only [noted, hlisted, Option.getD_some, hknown]
      exact Assoc.put_of_lookup hlisted
  unfold keep
  rw [Assoc.put_of_lookup h.referenced, Assoc.put_of_lookup h.named, hnoted]

theorem kept_keep (r : Registry) (repository : Repository) (reference : Text)
    (subject : Option Text) (manifest : Bytes) :
    (r.keep repository reference subject manifest).Kept repository reference subject manifest where
  referenced := by rw [lookup_manifests_keep, if_pos (.inr rfl)]
  named := by rw [lookup_manifests_keep, if_pos (.inl rfl)]
  noted := by
    intro digest hdigest
    cases hdigest
    have hreferrers : (r.keep repository reference (some digest) manifest).referrers =
        r.noted repository (sha256Digest manifest) (some digest) := rfl
    refine ⟨_, by rw [hreferrers, noted, Assoc.lookup_put, if_pos rfl], ?_⟩
    split_ifs with hmem
    · exact hmem
    · simp

/-- What is written once more as it was written before changes nothing. -/
theorem withImage_again {layers' : List Layer}
    (hdigests : layers'.map Layer.digest = layers.map Layer.digest) :
    (∀ content ∈ config :: layers'.map Layer.content,
      (r.withImage repository placement layers config manifest).HasContent repository content) ∧
    (r.withImage repository placement layers config manifest).withImage repository placement
      layers' config manifest = r.withImage repository placement layers config manifest := by
  have hthere : ∀ content ∈ config :: layers'.map Layer.content,
      (r.withImage repository placement layers config manifest).HasContent repository content := by
    have hadded : ∀ content ∈ config :: layers.map Layer.content,
        (r.withBlobs repository (config :: layers.map Layer.content)).HasContent repository
          content := fun content hcontent => hasContent_withBlobs hcontent
    intro content hcontent
    rcases List.mem_cons.1 hcontent with rfl | hcontent
    · exact hadded _ List.mem_cons_self
    · obtain ⟨l', hl', rfl⟩ := List.mem_map.1 hcontent
      have hdigest : l'.digest ∈ layers.map Layer.digest := hdigests ▸ List.mem_map_of_mem hl'
      obtain ⟨l, hl, hsame⟩ := List.mem_map.1 hdigest
      have hhas := hadded l.content (List.mem_cons_of_mem _ (List.mem_map_of_mem hl))
      rw [HasContent] at hhas ⊢
      rwa [show sha256Digest l'.content = sha256Digest l.content from hsame.symm]
  refine ⟨hthere, ?_⟩
  rw [withImage, withBlobs_of_hasContent hthere]
  exact keep_of_kept (kept_keep _ _ _ _ _)

end Registry
end Signet
