import Mathlib
import Signet.Proofs.Json.Form
import Signet.Proofs.Registry.Frame
import Signet.Proofs.Storage.Legacy

/-!
# What comes of a store

A store succeeds exactly if an image is prepared, can be rendered and can be uploaded, and then
the registry is the one to which that image is written. In the oldest format the prepared image
is made of the layers that are resolved; in the other formats whatever is prepared is prepared
again in a registry that gives the same answers.

## Main definitions

* `Storing.written` — the bytes of a value that can be written.
* `Storing.Prepares` — what is prepared in a registry, and how it is rendered.
-/
namespace Signet

/-! ## Images that are rendered in the same way -/

theorem Annotations.form_toJson {a b : Annotations} (h : Json.sortKeys a = Json.sortKeys b) :
    a.toJson.form = b.toJson.form := by
  apply Json.form_object
  rw [Json.sortKeys_map, Json.sortKeys_map, h]

/-- Layers that match and have the same content are described in the same way. -/
theorem Layer.Matches.form_descriptor {l l' : Layer} (h : l.Matches l')
    (hcontent : l'.content = l.content) :
    l'.descriptor.toJson.form = l.descriptor.toJson.form := by
  have hannotations := Annotations.form_toJson h.annotations
  have hempty : l'.annotations = [] ↔ l.annotations = [] := by
    rw [← List.length_eq_zero_iff, ← (Json.sortKeys_perm l'.annotations).length_eq, h.annotations,
      (Json.sortKeys_perm l.annotations).length_eq, List.length_eq_zero_iff]
  rw [Descriptor.toJson_eq, Descriptor.toJson_eq]
  apply Json.form_object_of_map
  by_cases hnone : l.annotations = []
  · simp [Descriptor.members, Layer.descriptor, Layer.digest, Layer.size, h.mediaType, hcontent,
      hempty.2 hnone, hnone]
  · simp [Descriptor.members, Layer.descriptor, Layer.digest, Layer.size, h.mediaType, hcontent,
      mt hempty.1 hnone, hnone, hannotations]

/-- Matching layers with the same contents are rendered in the same way. -/
theorem Registry.Renders.congr {placement : Placement} {layers layers' : List Layer}
    {config manifest : Bytes} (h : Registry.Renders placement layers config manifest)
    (hmatch : Layer.AllMatch layers layers')
    (hcontents : layers'.map Layer.content = layers.map Layer.content) :
    Registry.Renders placement layers' config manifest := by
  have hconfig : placement.config layers' = placement.config layers := by
    have hdigests : layers'.map Layer.digest = layers.map Layer.digest := by
      have hsame := congrArg (List.map sha256Digest) hcontents
      rwa [List.map_map, List.map_map] at hsame
    have hids : (layers'.map fun l => Json.text l.digest) = layers.map fun l => .text l.digest := by
      have hsame := congrArg (List.map Json.text) hdigests
      rwa [List.map_map, List.map_map] at hsame
    cases placement with
    | tag tag => simp only [Placement.config, hids]
    | subject d artifactType annotations => rfl
  have hlayers : (layers'.map fun l => l.descriptor.toJson).map Json.form =
      (layers.map fun l => l.descriptor.toJson).map Json.form := by
    clear hconfig h
    induction hmatch with
    | nil => rfl
    | @cons l l' rest rest' hl _ ih =>
      obtain ⟨hcontent, hrest⟩ := List.cons.inj hcontents
      rw [List.map_cons, List.map_cons, List.map_cons, List.map_cons, hl.form_descriptor hcontent,
        ih hrest]
  refine ⟨by rw [hconfig, h.config_eq], ?_⟩
  rw [← h.manifest_eq]
  apply Json.canonical_eq_of_form
  rw [imageManifest_eq, imageManifest_eq]
  apply Json.form_object_of_map
  simp only [manifestMembers, List.map_append, List.map_cons, List.map_nil,
    Json.form_array hlayers]

/-- A manifest determines the digests of the layers of which it is made. -/
theorem Registry.Renders.digests_eq {placement placement' : Placement}
    {layers layers' : List Layer} {config config' manifest : Bytes}
    (h : Registry.Renders placement layers config manifest)
    (h' : Registry.Renders placement' layers' config' manifest) :
    layers'.map Layer.digest = layers.map Layer.digest := by
  have hread := readBytes_manifest h.manifest_eq
  rw [readBytes_manifest h'.manifest_eq, Except.ok.injEq] at hread
  have hnamed := congrArg Registry.namedDigests? hread
  rw [Registry.namedDigests?_imageManifest, Registry.namedDigests?_imageManifest,
    Option.some.injEq] at hnamed
  have htexts := congrArg (List.map Json.text?) (List.cons.inj hnamed).2
  have htext (ls : List Layer) : (ls.map fun l => Json.text l.digest).map Json.text? =
      (ls.map Layer.digest).map some := by
    simp [Json.text?]
  rw [htext, htext] at htexts
  exact List.map_injective_iff.2 (Option.some_injective _) htexts

namespace Registry

variable {ε ε' α : Type} {r : Registry}

theorem outcome_mapError {attempt : Attempt ε α} {f : ε → ε'} {a : α} :
    outcome r (attempt.mapError f) = .ok a ↔ outcome r attempt = .ok a := by
  rw [Attempt.mapError, outcome_recover]
  cases outcome r attempt <;> simp

theorem after_mapError (attempt : Attempt ε α) (f : ε → ε') :
    after r (attempt.mapError f) = after r attempt := by
  rw [after, Attempt.mapError, Attempt.recover, ExceptT.run_mk, Session.run_bind, after]
  dsimp only
  cases (Session.run serve attempt.run r).result <;> rfl

end Registry

namespace Storing

open Attempt (Sends)
open Registry (outcome after outcome_bind_eq_ok_iff keyOf Renders CanUpload Carries)

variable {r r' : Registry} {remote : RemoteOptions} {o : StoreOptions} {q : StoreRequest}
  {image : ReadyImage} {config manifest : Bytes}

/-! ## Bytes that are written -/

/-- The bytes of a value that can be written. -/
@[irreducible]
def written (v : Json) : Bytes := v.canonical.toOption.getD []

theorem canonical_eq_written {v : Json} (h : v.canonical.toOption.isSome = true) :
    v.canonical = .ok (written v) := by
  rw [written]
  cases hv : v.canonical with
  | ok bytes => rfl
  | error e =>
    rw [hv] at h
    cases h

/-- An image is rendered if its manifest can be written. -/
theorem renders_written {placement : Placement} {layers : List Layer}
    (h : (imageManifest placement (written (placement.config layers))
      layers).canonical.toOption.isSome = true) :
    Renders placement layers (written (placement.config layers))
      (written (imageManifest placement (written (placement.config layers)) layers)) := by
  obtain ⟨config, hconfig⟩ := placement.canonical_config layers
  have hsome : (placement.config layers).canonical.toOption.isSome = true := by
    rw [hconfig]
    rfl
  exact ⟨canonical_eq_written hsome, canonical_eq_written h⟩

/-! ## Preparing and writing -/

/-- The image is prepared, rendered and can be uploaded. -/
structure Prepares (remote : RemoteOptions) (o : StoreOptions) (q : StoreRequest) (r : Registry)
    (image : ReadyImage) (config manifest : Bytes) : Prop where
  prepared : outcome r (prepare remote o q) = .ok image
  renders : Renders image.placement image.layers config manifest
  canUpload : CanUpload remote r image.repository (config :: image.layers.map Layer.content)

/-- The registry to which a prepared image is written. -/
def putImage (r : Registry) (image : ReadyImage) (config manifest : Bytes) : Registry :=
  r.withImage image.repository image.placement image.layers config manifest

theorem lookup_manifests_putImage {key : Registry.Key}
    (h : key.repository ≠ image.repository.toText) :
    Assoc.lookup key (putImage r image config manifest).manifests = Assoc.lookup key r.manifests :=
  Registry.lookup_manifests_withImage h

/-- What is prepared goes to a parsed repository, under a reference that stays whole. -/
theorem whole_of_prepared (hartifact : q.artifact.Parsed) (htarget : (target o q).Parsed)
    (h : outcome r (prepare remote o q) = .ok image) :
    image.repository.Parsed ∧ ∀ manifest, Remote.Whole (image.placement.reference manifest) := by
  have hcourse := Attempt.yields_run Registry.serve (prepare remote o q) r
  rw [outcome] at h
  rw [h] at hcourse
  obtain ⟨hrepository, hplaced⟩ := placed_of_prepare hcourse
  refine ⟨hrepository ▸ parsed_destination hartifact htarget, fun manifest => ?_⟩
  cases hplaced with
  | tagged _ htag hplacement =>
    rw [hplacement]
    exact Remote.whole_tag hartifact (whole_suffix _) htag
  | subject _ hplacement =>
    rw [hplacement]
    exact Remote.whole_sha256Digest manifest

/-- A store prepares an image and writes it. -/
theorem effect_store (remote : RemoteOptions) (o : StoreOptions) (q : StoreRequest)
    (r : Registry) :
    (runStore Registry.serve remote o q r).result = outcome r
        (prepare remote o q >>= write remote (pushFailure (.routed o.format) q.kind)) ∧
      (runStore Registry.serve remote o q r).state = after r
        (prepare remote o q >>= write remote (pushFailure (.routed o.format) q.kind)) :=
  same_storeWith.effect r

/-- A store of what is prepared, rendered and can be uploaded succeeds, and the image is written. -/
theorem Prepares.store (hartifact : q.artifact.Parsed) (htarget : (target o q).Parsed)
    (h : Prepares remote o q r image config manifest) :
    (runStore Registry.serve remote o q r).result = .ok () ∧
      (runStore Registry.serve remote o q r).state = putImage r image config manifest := by
  obtain ⟨hresult, hstate⟩ := effect_store remote o q r
  obtain ⟨hparsed, hwhole⟩ := whole_of_prepared hartifact htarget h.prepared
  obtain ⟨hwritten, hafter⟩ := Registry.writeImage_eq hparsed h.renders h.canUpload (hwhole _)
  have hmapped := Registry.outcome_mapError (f := pushFailure (.routed o.format) q.kind).2 hwritten
  rw [hresult, hstate, Registry.outcome_bind_of_ok h.prepared,
    Registry.after_bind_of_ok h.prepared, Registry.after_of_reads sends_prepare]
  refine ⟨(Registry.outcome_bind_of_ok hmapped _).trans rfl, ?_⟩
  refine (Registry.after_bind_of_ok hmapped _).trans ?_
  rw [Registry.after_mapError]
  exact hafter

/-- A store succeeds only if an image is prepared, rendered and can be uploaded. -/
theorem exists_prepares (hartifact : q.artifact.Parsed) (htarget : (target o q).Parsed)
    (h : (runStore Registry.serve remote o q r).result = .ok ()) :
    ∃ image config manifest, Prepares remote o q r image config manifest := by
  rw [(effect_store remote o q r).1, outcome_bind_eq_ok_iff sends_prepare] at h
  obtain ⟨image, himage, hwrite⟩ := h
  obtain ⟨hparsed, hwhole⟩ := whole_of_prepared hartifact htarget himage
  obtain ⟨digest, hdigest, -⟩ := Registry.outcome_bind_ok_iff.1 hwrite
  obtain ⟨config, manifest, hrenders, hcan⟩ :=
    Registry.canUpload_of_writeImage hparsed hwhole (Registry.outcome_mapError.1 hdigest)
  exact ⟨image, config, manifest, himage, hrenders, hcan⟩

/-! ## The oldest format -/

theorem outcome_built {α : Type} {x : Except BuildError α} {a : α} :
    outcome r (built x) = .ok a ↔ x = .ok a := by
  have hbuilt : outcome r (built x) = x.mapError fun e => .storage (.build e) := rfl
  rw [hbuilt]
  cases x <;> simp [Except.mapError]

theorem sends_built {α : Type} {P : Request → Prop} (x : Except BuildError α) :
    Sends P (built x) := Attempt.sends_ofExcept _

/-- In the oldest format the layers that are resolved are prepared with one more, under the tag. -/
theorem prepare_legacy_iff {tag : Text} (hlegacy : Format.routed o.format = .legacy)
    (htag : q.artifact.tag? q.kind.suffix = some tag) :
    outcome r (prepare remote o q) = .ok image ↔
      ∃ layer base, q.material.layer q.kind = .ok layer ∧
        Resolves r remote q.artifact q.kind base ∧
        image = ⟨target o q, layer.appendTo base, .tag tag⟩ := by
  have hsuffixes : neededSuffixes (.routed o.format) q.kind = [q.kind.suffix] := by
    rw [hlegacy]
    rfl
  have hprepareAs (entity : SignedEntity) (hentity : entity.artifact = q.artifact) :
      outcome r (prepareAs (.routed o.format) remote q entity
        (o.repository.getD q.artifact.repository)) = .ok image ↔
        ∃ layer, q.material.layer q.kind = .ok layer ∧
          image = ⟨target o q, layer.appendTo (entity.layers q.kind), .tag tag⟩ := by
    have htagged : outcome r ((Remote.tagFor entity.artifact q.kind.suffix).mapError
        (writeFailure (.tagged q.kind))) = .ok tag := by
      rw [Registry.outcome_mapError, hentity]
      exact outcome_tagFor htag
    rw [hlegacy]
    dsimp only [prepareAs]
    rw [prepareTagged, outcome_bind_eq_ok_iff (sends_built _)]
    simp only [outcome_built,
      outcome_bind_eq_ok_iff ((Remote.sends_tagFor entity.artifact q.kind.suffix).mapError
        (writeFailure (.tagged q.kind))), htagged]
    simp [eq_comm, target]
  rw [prepare, outcome_bind_eq_ok_iff (sends_resolve _ _), hsuffixes]
  constructor
  · rintro ⟨entity, hentity, himage⟩
    have hresolved := Attempt.yields_run Registry.serve
      (resolve remote q.artifact [q.kind.suffix]) r
    rw [outcome] at hentity
    rw [hentity] at hresolved
    obtain ⟨layer, hlayer, rfl⟩ := (hprepareAs entity (artifact_of_resolve hresolved)).1 himage
    exact ⟨layer, _, hlayer, ⟨entity, hentity, rfl⟩, rfl⟩
  · rintro ⟨layer, base, hlayer, ⟨entity, hentity, rfl⟩, rfl⟩
    have hresolved := Attempt.yields_run Registry.serve
      (resolve remote q.artifact [q.kind.suffix]) r
    have hrun := hentity
    rw [outcome] at hrun
    rw [hrun] at hresolved
    exact ⟨entity, hentity,
      (hprepareAs entity (artifact_of_resolve hresolved)).2 ⟨layer, hlayer, rfl⟩⟩

/-- What is resolved is prepared with the new layer, and it can be uploaded if uploads are sent to
the repository that is written to. -/
theorem prepares_of_resolves {tag : Text} {layer : Layer} {base : List Layer}
    (hlegacy : Format.routed o.format = .legacy)
    (htag : q.artifact.tag? q.kind.suffix = some tag) (hbuilt : q.material.layer q.kind = .ok layer)
    (hbase : Resolves r remote q.artifact q.kind base)
    (hrenders : Renders (.tag tag) (layer.appendTo base) config manifest)
    (hname : Registry.uploadName? remote (target o q) = some (target o q).toText) :
    Prepares remote o q r ⟨target o q, layer.appendTo base, .tag tag⟩ config manifest :=
  ⟨(prepare_legacy_iff hlegacy htag).2 ⟨layer, base, hbuilt, hbase, rfl⟩, hrenders, .inl hname⟩

/-! ## The other formats -/

section

variable {artifact : Artifact}

/-- Whether the registry lists referrers is answered as it is. -/
theorem outcome_referrersSupported (hparsed : artifact.Parsed) :
    outcome r (Remote.referrersSupported remote artifact.repository artifact.digest) =
      .ok r.listsReferrers := by
  obtain ⟨t, htarget, hquery⟩ :=
    Remote.query?_referrers (o := remote) hparsed.repository (Remote.whole_digest hparsed)
  have hurl : (remote.request .get
      (remote.url artifact.repository ("referrers/" ++ artifact.digest))
      [("Accept", MediaType.imageIndex)]).url =
        remote.url artifact.repository ("referrers/" ++ artifact.digest) := rfl
  rw [Remote.referrersSupported, Registry.outcome_ask, Registry.replyTo, Registry.respond, hurl,
    htarget]
  simp only [hquery]
  cases r.listsReferrers <;> rfl

/-- An artifact with a known descriptor is the subject of what is put beside it. -/
theorem outcome_subjectDescriptor_of_known (hparsed : artifact.Parsed)
    (hlists : r.listsReferrers = true) {entity : SignedEntity} {d : Descriptor}
    (hdescriptor : entity.descriptor = some d) (hknown : entity.known = true) :
    outcome r (Remote.subjectDescriptor remote artifact (some entity)) = .ok d := by
  have hfound : ((some entity).filter SignedEntity.known).bind SignedEntity.descriptor =
      some d := by
    rw [Option.filter_some_pos hknown]
    exact hdescriptor
  rw [Remote.subjectDescriptor_eq, hfound,
    outcome_bind_eq_ok_iff (Remote.sends_referrersSupported _)]
  exact ⟨true, hlists ▸ outcome_referrersSupported hparsed, rfl⟩

end

/-- As a referrer the image is prepared with what is resolved and one more layer, at the artifact
as its subject. -/
theorem prepare_referrer {tag : Text} {d : Descriptor} {layer : Layer} {base : List Layer}
    (hformat : Format.routed o.format = .referrers) (hparsed : q.artifact.Parsed)
    (hlists : r.listsReferrers = true) (htag : q.artifact.tag? q.kind.suffix = some tag)
    (hdescribed : Registry.describe q.artifact.repository q.artifact.digest
      (Assoc.lookup (keyOf q.artifact.repository q.artifact.digest) r.manifests) = .ok d)
    (himage : Registry.Image r remote q.artifact.repository tag base)
    (hbuilt : q.material.layer q.kind = .ok layer) :
    outcome r (prepare remote o q) =
      .ok ⟨q.artifact.repository, layer.appendTo base, .subject d q.kind.artifactType []⟩ := by
  obtain ⟨entity, hentity, rfl, hdescriptor, hknown⟩ :=
    signedEntity_of_image hparsed htag hdescribed himage
  have hresolved : outcome r (resolve remote q.artifact [q.kind.suffix]) = .ok entity := by
    rw [resolve, Registry.outcome_recover, hentity]
  have hsubject : outcome r ((Remote.subjectDescriptor remote q.artifact
      (some (entity.attach layer q.kind))).mapError (referrerFailure (.referrer q.kind))) =
        .ok d := by
    refine Registry.outcome_mapError.2
      (outcome_subjectDescriptor_of_known hparsed hlists ?_ ?_)
    · cases q.kind <;> exact hdescriptor
    · cases q.kind <;> exact hknown
  have hsuffixes : neededSuffixes .referrers q.kind = [q.kind.suffix] := rfl
  rw [prepare, hformat, hsuffixes, outcome_bind_eq_ok_iff (sends_resolve _ _)]
  refine ⟨entity, hresolved, ?_⟩
  rw [prepareAs, prepareReferrer, outcome_bind_eq_ok_iff (sends_built _)]
  refine ⟨layer, outcome_built.2 hbuilt, ?_⟩
  rw [outcome_bind_eq_ok_iff ((Remote.sends_subjectDescriptor _ _).mapError _)]
  exact ⟨d, hsubject, rfl⟩

/-- What is asked for an artifact is answered as before. -/
structure Retains (remote : RemoteOptions) (artifact : Artifact) (suffixes : List Text)
    (r r' : Registry) : Prop where
  listsReferrers : r'.listsReferrers = r.listsReferrers
  manifest : ∀ m, Assoc.lookup (keyOf artifact.repository artifact.digest) r.manifests = some m →
    Assoc.lookup (keyOf artifact.repository artifact.digest) r'.manifests = some m
  layers : ∀ kind tag, Kind.suffix kind ∈ suffixes → artifact.tag? kind.suffix = some tag →
    Carries r r' (Remote.loadLayers remote artifact.repository tag)

section Retains

variable {artifact : Artifact} {suffixes : List Text}

theorem Retains.headManifest (h : Retains remote artifact suffixes r r')
    (hparsed : artifact.Parsed) :
    Carries r r' (Remote.headManifest remote artifact.repository artifact.digest) := by
  intro descriptor hdescribed
  rw [Registry.outcome_headManifest hparsed.repository (Remote.whole_digest hparsed)]
    at hdescribed ⊢
  cases hm : Assoc.lookup (keyOf artifact.repository artifact.digest) r.manifests with
  | none =>
    rw [hm] at hdescribed
    cases hdescribed
  | some m =>
    rw [hm] at hdescribed
    rwa [h.manifest m hm]

theorem Retains.referrersSupported (h : Retains remote artifact suffixes r r')
    (hparsed : artifact.Parsed) :
    Carries r r' (Remote.referrersSupported remote artifact.repository artifact.digest) := by
  intro supported hsupported
  rw [outcome_referrersSupported hparsed] at hsupported ⊢
  rwa [h.listsReferrers]

theorem Retains.loadKind (h : Retains remote artifact suffixes r r') (kind : Kind) :
    Carries r r' (Remote.loadKind remote artifact suffixes kind) := by
  rw [Remote.loadKind]
  split
  · rename_i hsuffix
    rw [Remote.tagFor]
    cases htag : artifact.tag? kind.suffix with
    | none =>
      refine (Registry.carries_throw _).bind (Attempt.sends_throw _) ?_
      intro _ hok
      cases hok
    | some tag => exact h.layers kind tag hsuffix htag
  · exact Registry.carries_pure _

theorem Retains.signedEntity (h : Retains remote artifact suffixes r r')
    (hparsed : artifact.Parsed) : Carries r r' (Remote.signedEntity remote artifact suffixes) :=
  (h.headManifest hparsed).bind (Remote.sends_headManifest _) fun _ _ =>
    (h.loadKind _).bind (Remote.sends_loadKind _ _ _) fun _ _ =>
      (h.loadKind _).bind (Remote.sends_loadKind _ _ _) fun _ _ => Registry.carries_pure _

theorem Retains.subjectDescriptor (h : Retains remote artifact suffixes r r')
    (hparsed : artifact.Parsed) (entity : Option SignedEntity) :
    Carries r r' (Remote.subjectDescriptor remote artifact entity) := by
  rw [Remote.subjectDescriptor_eq]
  refine (h.referrersSupported hparsed).bind (Remote.sends_referrersSupported _) ?_
  intro supported _
  have hdescriptor : Carries r r'
      (((entity.filter SignedEntity.known).bind SignedEntity.descriptor).elim
        (Remote.headManifest remote artifact.repository artifact.digest) pure) := by
    cases (entity.filter SignedEntity.known).bind SignedEntity.descriptor with
    | none => exact h.headManifest hparsed
    | some descriptor => exact Registry.carries_pure descriptor
  cases supported with
  | true => exact hdescriptor
  | false =>
    intro _ hok
    cases hok

/-- The artifact is there if it is not resolved to a placeholder. -/
theorem missing_of_signedEntity (hparsed : artifact.Parsed) {repository : Repository}
    {reference : Text}
    (h : outcome r (Remote.signedEntity remote artifact suffixes) =
      .error (.registry (.missing repository reference))) :
    Assoc.lookup (keyOf artifact.repository artifact.digest) r.manifests = none := by
  have hkind (kind : Kind) : outcome r (Remote.loadKind remote artifact suffixes kind) ≠
      .error (.registry (.missing repository reference)) := by
    rw [Remote.loadKind]
    split
    · obtain ⟨tag, htag⟩ := hparsed.exists_tag kind.suffix
      rw [Remote.tagFor, htag]
      exact Registry.outcome_loadLayers_ne_missing hparsed.repository
        (Remote.whole_tag hparsed (whole_suffix kind) htag)
    · rintro ⟨⟩
  rw [Remote.signedEntity, Registry.outcome_bind_eq_error_iff (Remote.sends_headManifest _),
    Registry.outcome_headManifest hparsed.repository (Remote.whole_digest hparsed)] at h
  rcases h with h | ⟨descriptor, -, h⟩
  · cases hm : Assoc.lookup (keyOf artifact.repository artifact.digest) r.manifests with
    | none => rfl
    | some m =>
      rw [hm] at h
      exact absurd h Registry.describe_ne_missing
  · rw [Registry.outcome_bind_eq_error_iff (Remote.sends_loadKind _ _ _)] at h
    rcases h with h | ⟨signatures, -, h⟩
    · exact absurd h (hkind _)
    · rw [Registry.outcome_bind_eq_error_iff (Remote.sends_loadKind _ _ _)] at h
      rcases h with h | ⟨attestations, -, h⟩
      · exact absurd h (hkind _)
      · cases h

theorem Retains.resolve (h : Retains remote artifact suffixes r r') (hparsed : artifact.Parsed)
    {m : StoredManifest}
    (hm : Assoc.lookup (keyOf artifact.repository artifact.digest) r.manifests = some m) :
    Carries r r' (resolve remote artifact suffixes) := by
  intro entity hentity
  rw [Storing.resolve, Registry.outcome_recover] at hentity ⊢
  cases hresult : outcome r (Remote.signedEntity remote artifact suffixes) with
  | ok found =>
    rw [hresult] at hentity
    rw [h.signedEntity hparsed hresult]
    exact hentity
  | error e =>
    rw [hresult] at hentity
    dsimp only at hentity
    split at hentity
    · rw [missing_of_signedEntity hparsed hresult] at hm
      cases hm
    · cases hentity
    · cases hentity

end Retains

/-- A subject that is not known has to be there. -/
theorem present_of_subjectDescriptor (hartifact : q.artifact.Parsed)
    {entity : Option SignedEntity}
    (hentity : (entity.filter SignedEntity.known).bind SignedEntity.descriptor = none)
    {descriptor : Descriptor}
    (h : outcome r (Remote.subjectDescriptor remote q.artifact entity) = .ok descriptor) :
    Assoc.lookup (keyOf q.artifact.repository q.artifact.digest) r.manifests ≠ none := by
  intro hm
  rw [Remote.subjectDescriptor, outcome_bind_eq_ok_iff (Remote.sends_referrersSupported _)] at h
  obtain ⟨supported, -, h⟩ := h
  rw [hentity] at h
  cases supported with
  | false => cases h
  | true =>
    have hhead : outcome r (Remote.headManifest remote q.artifact.repository q.artifact.digest) =
        .ok descriptor := h
    rw [Registry.outcome_headManifest hartifact.repository (Remote.whole_digest hartifact), hm]
      at hhead
    cases hhead

/-- Outside of the oldest format an image is prepared only if the artifact is there. -/
theorem present_of_prepared (hartifact : q.artifact.Parsed)
    (hformat : Format.routed o.format ≠ .legacy)
    (h : outcome r (prepare remote o q) = .ok image) :
    ∃ m, Assoc.lookup (keyOf q.artifact.repository q.artifact.digest) r.manifests = some m := by
  rw [← Option.ne_none_iff_exists']
  intro hm
  have hresolve (suffixes : List Text) :
      outcome r (resolve remote q.artifact suffixes) = .ok (.unknown q.artifact) := by
    have hentity : outcome r (Remote.signedEntity remote q.artifact suffixes) =
        .error (.registry (.missing q.artifact.repository q.artifact.digest)) := by
      rw [Remote.signedEntity, Registry.outcome_bind_eq_error_iff (Remote.sends_headManifest _),
        Registry.outcome_headManifest hartifact.repository (Remote.whole_digest hartifact), hm]
      exact .inl rfl
    rw [resolve, Registry.outcome_recover, hentity]
  have hreferrer : outcome r (prepareReferrer remote q (.unknown q.artifact)) ≠ .ok image := by
    intro hok
    rw [prepareReferrer, outcome_bind_eq_ok_iff (sends_built _)] at hok
    obtain ⟨layer, -, hok⟩ := hok
    obtain ⟨subject, hsubject, -⟩ :=
      (outcome_bind_eq_ok_iff ((Remote.sends_subjectDescriptor _ _).mapError _)).1 hok
    refine present_of_subjectDescriptor hartifact ?_ (Registry.outcome_mapError.1 hsubject) hm
    cases q.kind <;> rfl
  have hbundle : outcome r (prepareBundle remote q) ≠ .ok image := by
    intro hok
    rw [prepareBundle, outcome_bind_eq_ok_iff (sends_built _)] at hok
    obtain ⟨envelope, -, hok⟩ := hok
    obtain ⟨subject, hsubject, -⟩ :=
      (outcome_bind_eq_ok_iff ((Remote.sends_subjectDescriptor _ _).mapError _)).1 hok
    exact present_of_subjectDescriptor hartifact rfl (Registry.outcome_mapError.1 hsubject) hm
  rw [prepare, outcome_bind_eq_ok_iff (sends_resolve _ _)] at h
  obtain ⟨entity, hentity, himage⟩ := h
  obtain rfl : SignedEntity.unknown q.artifact = entity :=
    Except.ok.inj ((hresolve _).symm.trans hentity)
  cases hrouted : Format.routed o.format with
  | legacy => exact hformat hrouted
  | referrers =>
    rw [hrouted] at himage
    exact hreferrer himage
  | bundle =>
    rw [hrouted, prepareAs] at himage
    split at himage
    · exact hbundle himage
    · exact hreferrer himage

/-- Outside of the oldest format, what is prepared once is prepared again if what is asked for the
artifact is answered as before. -/
theorem Retains.prepare (h : Retains remote q.artifact [q.kind.suffix] r r')
    (hartifact : q.artifact.Parsed) (hformat : Format.routed o.format ≠ .legacy) :
    Carries r r' (prepare remote o q) := by
  intro image himage
  obtain ⟨m, hm⟩ := present_of_prepared hartifact hformat himage
  have hneeded : Retains remote q.artifact (neededSuffixes (.routed o.format) q.kind) r r' := by
    refine ⟨h.listsReferrers, h.manifest, fun kind tag hsuffix => h.layers kind tag ?_⟩
    rw [neededSuffixes] at hsuffix
    split_ifs at hsuffix
    · cases hsuffix
    · exact hsuffix
  have hreferrer (entity : SignedEntity) : Carries r r' (prepareReferrer remote q entity) :=
    (Registry.carries_ofExcept _).bind (sends_built _) fun _ _ =>
      ((h.subjectDescriptor hartifact _).mapError _).bind
        ((Remote.sends_subjectDescriptor _ _).mapError _) fun _ _ => Registry.carries_pure _
  have hbundle : Carries r r' (prepareBundle remote q) :=
    (Registry.carries_ofExcept _).bind (sends_built _) fun _ _ =>
      ((h.subjectDescriptor hartifact _).mapError _).bind
        ((Remote.sends_subjectDescriptor _ _).mapError _) fun _ _ => Registry.carries_pure _
  have hprepare : Carries r r' (Storing.prepare remote o q) := by
    refine (hneeded.resolve hartifact hm).bind (sends_resolve _ _) ?_
    intro entity _
    cases hrouted : Format.routed o.format with
    | legacy => exact absurd hrouted hformat
    | referrers => exact hreferrer entity
    | bundle =>
      rw [prepareAs]
      split
      · exact hbundle
      · exact hreferrer entity
  exact hprepare himage

/-! ## A signature -/

/-- The tag of signatures of the artifact. -/
def sampleTag : Text := "sha256-aaaaaaaaaaaaaaaaaaaaaaaaaaaaaaaaaaaaaaaaaaaaaaaaaaaaaaaaaaaaaaaa.sig"

theorem tag_sampleRequest : sampleRequest.artifact.tag? sampleRequest.kind.suffix =
    some sampleTag := by
  decide +kernel

theorem parsed_sampleArtifact : sampleArtifact.Parsed :=
  Artifact.parsed_of_parse parse_sampleReference

theorem digest_ne_sampleTag (repository : Repository) :
    keyOf repository sampleArtifact.digest ≠ keyOf repository sampleTag :=
  fun h => parsed_sampleArtifact.digest_ne_tag parsed_sampleArtifact tag_sampleRequest
    (Registry.Key.mk.inj h).2

/-- The layer of that signature. -/
def signatureLayer : Layer :=
  { mediaType := MediaType.simpleSigning
    content := [99]
    annotations := [(AnnotationKey.signature, Base64.encode [115])] }

theorem built_signature : sampleRequest.material.layer .signature = .ok signatureLayer := by
  rfl

def signatureConfig : Bytes := written ((Placement.tag sampleTag).config [signatureLayer])

def signatureManifest : Bytes :=
  written (imageManifest (.tag sampleTag) signatureConfig [signatureLayer])

theorem canonical_signatureManifest :
    (imageManifest (.tag sampleTag) signatureConfig [signatureLayer]).canonical.toOption.isSome =
      true ∧ signatureManifest.length < 2 ^ 63 ∧ sha256Digest signatureManifest =
        "sha256:f9d983d95aadb70b0f4ca0ec335301525a416d5232c6792b9ab48cb82e36a0a0" := by
  decide +kernel

/-- The tag is no part of what is written. -/
theorem renders_signature (tag : Text) :
    Renders (.tag tag) [signatureLayer] signatureConfig signatureManifest := by
  have hrenders := renders_written canonical_signatureManifest.1
  exact ⟨hrenders.config_eq, hrenders.manifest_eq⟩

/-- A signature of an artifact without signatures is stored alone. -/
theorem store_signature {artifact : Artifact} {repository : Repository} {tag : Text}
    (hlegacy : Format.routed o.format = .legacy) (hartifact : artifact.Parsed)
    (htarget : target o { sampleRequest with artifact } = repository)
    (hrepository : repository.Parsed) (htag : artifact.tag? Kind.signature.suffix = some tag)
    (hnone : Resolves r remote artifact .signature []) (hline : Registry.InLine repository)
    (hbracket : ('[' : CodePoint) ∉ repository.registry) :
    (runStore Registry.serve remote o { sampleRequest with artifact } r).result = .ok () ∧
      (runStore Registry.serve remote o { sampleRequest with artifact } r).state =
        putImage r ⟨repository, [signatureLayer], .tag tag⟩ signatureConfig signatureManifest := by
  subst htarget
  have halone : signatureLayer.appendTo [] = [signatureLayer] := rfl
  have hrenders := renders_signature tag
  rw [← halone] at hrenders ⊢
  have hname := Registry.uploadName?_eq_some hrepository hline hbracket remote
  exact (prepares_of_resolves (q := { sampleRequest with artifact }) hlegacy htag built_signature
    hnone hrenders hname).store hartifact hrepository

/-- The descriptor of a manifest without members. -/
def emptyDescriptor : Descriptor :=
  { mediaType := MediaType.imageManifest, digest := sha256Digest (encoded "\x7b\x7d"), size := 2 }

/-- Where a signature goes whose artifact is such a manifest. -/
def signatureReferrer : Placement := .subject emptyDescriptor Kind.signature.artifactType []

theorem canonical_signatureReferrer :
    (imageManifest signatureReferrer (written (signatureReferrer.config [signatureLayer]))
      [signatureLayer]).canonical.toOption.isSome = true := by
  decide +kernel

/-- A signature of such an artifact without signatures is stored as its referrer. -/
theorem store_signatureReferrer {artifact : Artifact} {tag : Text}
    (hformat : Format.routed o.format = .referrers) (hartifact : artifact.Parsed)
    (htarget : (target o { sampleRequest with artifact }).Parsed)
    (hlists : r.listsReferrers = true) (htag : artifact.tag? Kind.signature.suffix = some tag)
    (hm : Assoc.lookup (keyOf artifact.repository artifact.digest) r.manifests =
      some { content := encoded "\x7b\x7d" })
    (hnone : Registry.Image r remote artifact.repository tag [])
    (hline : Registry.InLine artifact.repository)
    (hbracket : ('[' : CodePoint) ∉ artifact.repository.registry) :
    outcome r (prepare remote o { sampleRequest with artifact }) =
        .ok ⟨artifact.repository, [signatureLayer], signatureReferrer⟩ ∧
      (runStore Registry.serve remote o { sampleRequest with artifact } r).result = .ok () := by
  have hdescribed : Registry.describe artifact.repository artifact.digest
      (Assoc.lookup (keyOf artifact.repository artifact.digest) r.manifests) =
        .ok emptyDescriptor := by
    rw [hm]
    exact Registry.describe_pushed rfl (by decide)
  have hprepared : outcome r (prepare remote o { sampleRequest with artifact }) =
      .ok ⟨artifact.repository, [signatureLayer], signatureReferrer⟩ :=
    prepare_referrer (q := { sampleRequest with artifact }) hformat hartifact hlists htag
      hdescribed hnone built_signature
  have hprepares : Prepares remote o { sampleRequest with artifact } r
      ⟨artifact.repository, [signatureLayer], signatureReferrer⟩ _ _ :=
    ⟨hprepared, renders_written canonical_signatureReferrer,
      .inl (Registry.uploadName?_eq_some hartifact.repository hline hbracket remote)⟩
  exact ⟨hprepared, (hprepares.store hartifact htarget).1⟩

end Storing
end Signet
