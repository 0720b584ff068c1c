import Mathlib
import Signet.Proofs.Remote.Client
import Signet.Proofs.Remote.Manifest

/-!
# Courses of reading and writing images

Reading an image only reads. Writing one uploads its parts, one after the other, and pushes
the manifest last: a course ends with the first upload that fails, before the manifest if
that cannot be written, or with the one request that pushes the manifest.
-/
namespace Signet
namespace Remote

open Attempt (Yields Sends)

variable {o : RemoteOptions} {repository : Repository} {xs : List Exchange}

/-! ## Reading -/

theorem sends_fail {α : Type} {P : Request → Prop} (e : RegistryError) :
    Sends P (fail e : Remote α) :=
  Attempt.sends_throw _

section Fetches

variable {references : Text → Prop}

theorem fetches_loadLayer (tag : Text) (v : Json) :
    Sends (Fetches o repository references) (loadLayer o repository tag v) := by
  rw [loadLayer]
  split
  · exact sends_fail _
  · split
    · exact (fetches_getBlob _).bind fun _ => Attempt.sends_pure _
    · exact sends_fail _

theorem fetches_loadEach (tag : Text) (items : List Json) :
    Sends (Fetches o repository references) (loadEach o repository tag items) := by
  induction items with
  | nil => exact Attempt.sends_pure _
  | cons v rest ih =>
    exact (fetches_loadLayer tag v).bind fun _ => ih.bind fun _ => Attempt.sends_pure _

end Fetches

theorem fetches_tagManifest? (tag : Text) :
    Sends (Fetches o repository (· = tag)) (tagManifest? o repository tag) :=
  ((fetches_getManifest tag).bind fun _ => Attempt.sends_pure _).recover _

theorem fetches_loadLayers (tag : Text) :
    Sends (Fetches o repository (· = tag)) (loadLayers o repository tag) := by
  refine (fetches_tagManifest? tag).bind ?_
  intro manifest
  cases manifest with
  | none => exact Attempt.sends_pure _
  | some members =>
    dsimp only
    split
    · exact sends_fail _
    · exact fetches_loadEach tag _

theorem sends_loadLayer (tag : Text) (v : Json) :
    Sends Request.Reads (loadLayer o repository tag v) :=
  have hfetches : Sends (Fetches o repository (· = tag)) (loadLayer o repository tag v) :=
    fetches_loadLayer tag v
  hfetches.mono fun _ => Fetches.reads

theorem sends_loadEach (tag : Text) (items : List Json) :
    Sends Request.Reads (loadEach o repository tag items) :=
  have hfetches : Sends (Fetches o repository (· = tag)) (loadEach o repository tag items) :=
    fetches_loadEach tag items
  hfetches.mono fun _ => Fetches.reads

theorem sends_tagManifest? (tag : Text) :
    Sends Request.Reads (tagManifest? o repository tag) :=
  (fetches_tagManifest? tag).mono fun _ => Fetches.reads

theorem sends_tagFor {P : Request → Prop} (artifact : Artifact) (suffix : Text) :
    Sends P (tagFor artifact suffix) := by
  rw [tagFor]
  split
  · exact Attempt.sends_pure _
  · exact Attempt.sends_throw _

/-- Reading the material of a kind asks for the manifest under its tag only. -/
theorem fetches_loadKind (artifact : Artifact) (suffixes : List Text) (kind : Kind) :
    Sends (Fetches o artifact.repository fun tag => artifact.tag? kind.suffix = some tag)
      (loadKind o artifact suffixes kind) := by
  rw [loadKind]
  split
  · refine (sends_tagFor _ _).bind_of_yields ?_
    intro ys tag htag
    rw [tagFor] at htag
    split at htag
    · rename_i found hfound
      obtain ⟨-, hsame⟩ := htag
      cases hsame
      exact (fetches_loadLayers tag).mono fun _ h => h.mono fun _ ht => ht ▸ hfound
    · obtain ⟨-, hok⟩ := htag
      cases hok
  · exact Attempt.sends_pure _

theorem sends_loadKind (artifact : Artifact) (suffixes : List Text) (kind : Kind) :
    Sends Request.Reads (loadKind o artifact suffixes kind) :=
  (fetches_loadKind artifact suffixes kind).mono fun _ => Fetches.reads

/-- Reading an artifact asks for its own manifest and for those under its tags. -/
theorem fetches_signedEntity (artifact : Artifact) (suffixes : List Text) :
    Sends (Fetches o artifact.repository fun reference => reference = artifact.digest ∨
      ∃ kind : Kind, artifact.tag? kind.suffix = some reference)
      (signedEntity o artifact suffixes) :=
  have hkind (kind : Kind) :
      Sends (Fetches o artifact.repository fun reference => reference = artifact.digest ∨
        ∃ kind : Kind, artifact.tag? kind.suffix = some reference)
        (loadKind o artifact suffixes kind) :=
    (fetches_loadKind artifact suffixes kind).mono fun _ h => h.mono fun _ ht => .inr ⟨kind, ht⟩
  ((fetches_headManifest _).mono fun _ h => h.mono fun _ => .inl).bind fun _ =>
    (hkind .signature).bind fun _ => (hkind .attestation).bind fun _ => Attempt.sends_pure _

theorem sends_signedEntity (artifact : Artifact) (suffixes : List Text) :
    Sends Request.Reads (signedEntity o artifact suffixes) :=
  (fetches_signedEntity artifact suffixes).mono fun _ => Fetches.reads

/-- The descriptor of a subject is known or asked for, if the registry lists referrers. -/
theorem subjectDescriptor_eq (o : RemoteOptions) (artifact : Artifact)
    (entity : Option SignedEntity) :
    subjectDescriptor o artifact entity = (do
      if !(← referrersSupported o artifact.repository artifact.digest) then
        fail (.withoutReferrers artifact.repository.registry)
      ((entity.filter SignedEntity.known).bind SignedEntity.descriptor).elim
        (headManifest o artifact.repository artifact.digest) pure) := by
  rw [subjectDescriptor]
  cases (entity.filter SignedEntity.known).bind SignedEntity.descriptor <;> rfl

theorem sends_subjectDescriptor (artifact : Artifact) (entity : Option SignedEntity) :
    Sends Request.Reads (subjectDescriptor o artifact entity) := by
  rw [subjectDescriptor_eq]
  refine (sends_referrersSupported _).bind ?_
  intro supported
  have hdescriptor : Sends Request.Reads
      (((entity.filter SignedEntity.known).bind SignedEntity.descriptor).elim
        (headManifest o artifact.repository artifact.digest) pure) := by
    cases (entity.filter SignedEntity.known).bind SignedEntity.descriptor with
    | none => exact sends_headManifest _
    | some descriptor => exact Attempt.sends_pure descriptor
  cases supported with
  | true => exact hdescriptor
  | false => exact (sends_fail _).bind fun _ => hdescriptor

/-! ## Uploading -/

/-- Uploads everything that an image is made of. -/
def uploadParts (o : RemoteOptions) (repository : Repository) (config : Bytes)
    (layers : List Layer) : Remote Unit := do
  let _ ← uploadBlob o repository config
  uploadLayers o repository layers

theorem uploads_uploadLayers (layers : List Layer) :
    Sends (Uploads o repository) (uploadLayers o repository layers) := by
  induction layers with
  | nil => exact Attempt.sends_pure _
  | cons layer rest ih => exact (uploads_uploadBlob _).bind fun _ => ih

theorem uploads_uploadParts (config : Bytes) (layers : List Layer) :
    Sends (Uploads o repository) (uploadParts o repository config layers) :=
  (uploads_uploadBlob _).bind fun _ => uploads_uploadLayers _

theorem sends_uploadParts (config : Bytes) (layers : List Layer) :
    Sends (fun q => ¬ q.PushesManifest) (uploadParts o repository config layers) :=
  (uploads_uploadParts config layers).mono fun _ => Uploads.not_pushesManifest

/-- When all layers are uploaded, the registry acknowledged the content of each. -/
theorem acknowledged_of_uploadLayers {layers : List Layer}
    (h : Yields (uploadLayers o repository layers) xs (.ok ())) :
    ∀ l ∈ layers, Acknowledged o repository l.digest xs := by
  induction layers generalizing xs with
  | nil => simp
  | cons layer rest ih =>
    obtain ⟨ys, zs, digest, rfl, hfirst, hrest⟩ := Attempt.yields_bind_ok.1 h
    intro l hl
    rcases List.mem_cons.1 hl with rfl | hl
    · simpa [Layer.digest] using (acknowledged_of_uploadBlob hfirst).2.append [] zs
    · simpa using (ih hrest l hl).append ys []

theorem acknowledged_of_uploadParts {config : Bytes} {layers : List Layer}
    (h : Yields (uploadParts o repository config layers) xs (.ok ())) :
    Acknowledged o repository (sha256Digest config) xs ∧
      ∀ l ∈ layers, Acknowledged o repository l.digest xs := by
  obtain ⟨ys, zs, digest, rfl, hconfig, hlayers⟩ := Attempt.yields_bind_ok.1 h
  refine ⟨?_, fun l hl => ?_⟩
  · simpa using (acknowledged_of_uploadBlob hconfig).2.append [] zs
  · simpa using (acknowledged_of_uploadLayers hlayers l hl).append ys []

/-! ## Writing -/

/-- The courses of writing an image, with their results. -/
inductive WriteCourse (o : RemoteOptions) (repository : Repository) (layers : List Layer)
    (placement : Placement) (config : Bytes) :
    List Exchange → Except RemoteFailure Text → Prop where
  /-- A part of the image is not uploaded. -/
  | notUploaded {xs : List Exchange} {e : RemoteFailure}
    (h : Yields (uploadParts o repository config layers) xs (.error e)) :
    WriteCourse o repository layers placement config xs (.error e)
  /-- The parts are uploaded, and the manifest cannot be written. -/
  | unwritable {xs : List Exchange} {e : CanonicalFault}
    (h : Yields (uploadParts o repository config layers) xs (.ok ()))
    (hmanifest : (imageManifest placement config layers).canonical = .error e) :
    WriteCourse o repository layers placement config xs (.error (.fault (.unwritable e)))
  /-- The parts are uploaded, and the manifest is pushed. -/
  | pushed {xs : List Exchange} {manifest : Bytes} {reply : Reply}
    (h : Yields (uploadParts o repository config layers) xs (.ok ()))
    (hmanifest : (imageManifest placement config layers).canonical = .ok manifest) :
    WriteCourse o repository layers placement config
      (xs ++ [(pushRequest o repository (placement.reference manifest) manifest
        MediaType.imageManifest, reply)])
      (understood (pushRequest o repository (placement.reference manifest) manifest
        MediaType.imageManifest)
        (checkPushed repository (placement.reference manifest) manifest) reply)

theorem yields_canonical_ok {v : Json} {bytes : Bytes} :
    Yields (canonical v) xs (.ok bytes) ↔ xs = [] ∧ v.canonical = .ok bytes := by
  rw [canonical]
  cases v.canonical <;> simp [eq_comm]

theorem yields_canonical_error {v : Json} {e : RemoteFailure} :
    Yields (canonical v) xs (.error e) ↔
      xs = [] ∧ ∃ fault, v.canonical = .error fault ∧ e = .fault (.unwritable fault) := by
  rw [canonical]
  cases v.canonical <;> simp

/-- Writing an image is uploading its parts and pushing its manifest. -/
theorem writeImage_eq (o : RemoteOptions) (repository : Repository) (layers : List Layer)
    (placement : Placement) :
    writeImage o repository layers placement = (do
      let config ← canonical (placement.config layers)
      uploadParts o repository config layers
      let manifest ← canonical (imageManifest placement config layers)
      putManifest o repository (placement.reference manifest) manifest
        MediaType.imageManifest) := by
  simp only [writeImage, uploadParts, bind_assoc]

theorem writeCourse {layers : List Layer} {placement : Placement} {r : Except RemoteFailure Text}
    (h : Yields (writeImage o repository layers placement) xs r) :
    ∃ config, (placement.config layers).canonical = .ok config ∧
      WriteCourse o repository layers placement config xs r := by
  obtain ⟨config, hconfig⟩ := placement.canonical_config layers
  refine ⟨config, hconfig, ?_⟩
  rw [writeImage_eq] at h
  rcases Attempt.yields_bind.1 h with ⟨e, he, -⟩ | ⟨_, xs, config', rfl, hconfig', h⟩
  · obtain ⟨-, fault, hfault, -⟩ := yields_canonical_error.1 he
    rw [hconfig] at hfault
    cases hfault
  obtain ⟨rfl, hsame⟩ := yields_canonical_ok.1 hconfig'
  obtain rfl : config = config' := by simpa [hconfig] using hsame
  rw [List.nil_append]
  rcases Attempt.yields_bind.1 h with ⟨e, he, rfl⟩ | ⟨ys, zs, _, rfl, hupload, h⟩
  · exact .notUploaded he
  rcases Attempt.yields_bind.1 h with ⟨e, he, rfl⟩ | ⟨_, ws, manifest, rfl, hmanifest, hpush⟩
  · obtain ⟨rfl, fault, hfault, rfl⟩ := yields_canonical_error.1 he
    rw [List.append_nil]
    exact .unwritable hupload hfault
  · obtain ⟨rfl, hbytes⟩ := yields_canonical_ok.1 hmanifest
    obtain ⟨reply, rfl, rfl⟩ := yields_ask.1 hpush
    exact .pushed hupload hbytes

/-- The registry takes a manifest with one of three statuses. -/
def Taken (reply : Reply) : Prop :=
  ∃ p, reply = .received p ∧ (p.status = 200 ∨ p.status = 201 ∨ p.status = 202)

/-- Pushing a manifest succeeds exactly if it is taken. -/
theorem understood_pushed_iff {request : Request} {reference : Text} {manifest : Bytes}
    {reply : Reply} :
    (∃ digest, understood request (checkPushed repository reference manifest) reply = .ok digest) ↔
      Taken reply := by
  cases reply with
  | failure reason => simp [understood, Taken]
  | received p =>
    rw [understood_received, checkPushed]
    split_ifs with hstatus
    · simpa [Taken] using hstatus
    · simpa [Taken] using hstatus

end Remote
end Signet
