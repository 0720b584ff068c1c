import Mathlib
import Signet.Proofs.Storage.Fallback
import Signet.Proofs.Storage.Push
import Signet.Proofs.Storage.Run

/-!
# The same material under a tag and as a referrer

A store under the tag and a store as a referrer begin with the same resolution and attach the same
layer to it, so they refuse the same requests. The images that they push have the same layers; they
differ in the configuration and in what the manifest says about the artifact.

## Main definitions

* `StoreFailure.IsRefusal` — the artifact is not resolved, or the layer is not built.
* `TagManifest`, `ReferrerManifest` — the manifests of the two images of the same layers.
-/
namespace Signet

/-- The artifact is not resolved, or the layer is not built. -/
def StoreFailure.IsRefusal : StoreFailure → Prop
  | .storage (.resolution _) | .storage (.build _) => True
  | .storage (.write _ _) | .storage (.unsupported _) | .fault _ => False

/-! ## The two manifests -/

/-- The descriptors of layers, as they are read back from a manifest. -/
def describedLayers (layers : List Layer) : Json :=
  .array (layers.map fun l => Json.normal l.descriptor.toJson)

/-- The manifest describes the content as its configuration of the type. -/
def HasConfig (manifest : Json) (mediaType : Text) (content : Bytes) : Prop :=
  manifest.member? "config" = some (Json.normal (Descriptor.toJson
    { mediaType, digest := sha256Digest content, size := content.length }))

/-- The configuration lists the digests of the layers. -/
def ListsDigests (config : Bytes) (layers : List Layer) : Prop :=
  ∃ v, Json.readBytes config = .ok v ∧
    (v.member? "rootfs").bind (Json.member? "diff_ids") =
      some (.array (layers.map fun l => .text l.digest))

/-- The manifest of a tag: it has the layers and a configuration that lists their digests, and
says nothing about an artifact. -/
structure TagManifest (layers : List Layer) (config : Bytes) (manifest : Json) : Prop where
  describes : manifest.member? "layers" = some (describedLayers layers)
  configured : HasConfig manifest MediaType.imageConfig config
  lists : ListsDigests config layers
  subject : manifest.member? "subject" = none
  artifactType : manifest.member? "artifactType" = none
  annotations : manifest.member? "annotations" = none

/-- The configuration of a referrer. -/
def emptyConfig : Bytes := [0x7b, 0x7d]

/-- The manifest of a referrer: it has the layers and an empty configuration, and names the type
of the kind and a subject. -/
structure ReferrerManifest (kind : Kind) (layers : List Layer) (manifest : Json) : Prop where
  describes : manifest.member? "layers" = some (describedLayers layers)
  configured : HasConfig manifest MediaType.emptyConfig emptyConfig
  artifactType : manifest.member? "artifactType" = some (.text kind.artifactType)
  subject : ∃ d : Descriptor, manifest.member? "subject" = some (Json.normal (Descriptor.toJson
    { mediaType := d.mediaType, digest := d.digest, size := d.size }))

theorem canonical_emptyConfig : (Json.object []).canonical = .ok emptyConfig := by
  decide +kernel

section manifests

variable {layers : List Layer} {config : Bytes}

/-- The configuration of a tag lists the digests of the layers. -/
theorem listsDigests_of_canonical {tag : Text}
    (h : ((Placement.tag tag).config layers).canonical = .ok config) :
    ListsDigests config layers := by
  have hread := Json.readBytes_canonical ((Placement.tag tag).plain_config layers).floatFree h
  have hids : Json.normal (.array (layers.map fun l => .text l.digest)) =
      .array (layers.map fun l => .text l.digest) := by
    rw [Json.normal_array, List.map_map]
    exact congrArg _ (List.map_congr_left fun l _ => Json.normal_text _)
  have hrootfs : (Json.normal ((Placement.tag tag).config layers)).member? "rootfs" =
      some (Json.normal (.object
        [("type", "layers"), ("diff_ids", .array (layers.map fun l => .text l.digest))])) := by
    rw [Placement.config, Json.member?_normal
      (by exact (by decide : [("architecture" : Text), "os", "config", "rootfs"].Nodup))]
    rfl
  refine ⟨_, hread, ?_⟩
  rw [hrootfs, Option.bind_some, Json.member?_normal
    (by exact (by decide : [("type" : Text), "diff_ids"].Nodup))]
  exact congrArg some hids

theorem tagManifest_imageManifest {tag : Text}
    (h : ((Placement.tag tag).config layers).canonical = .ok config) :
    TagManifest layers config (Json.normal (imageManifest (.tag tag) config layers)) where
  describes := member?_layers
  configured := member?_config
  lists := listsDigests_of_canonical h
  subject := member?_subject
  artifactType := by
    rw [member?_imageManifest]
    rfl
  annotations := by
    rw [member?_imageManifest]
    rfl

theorem referrerManifest_imageManifest {d : Descriptor} (kind : Kind) :
    ReferrerManifest kind layers
      (Json.normal (imageManifest (.subject d kind.artifactType []) emptyConfig layers)) where
  describes := member?_layers
  configured := member?_config
  artifactType := by
    rw [member?_imageManifest, ← Json.normal_text]
    rfl
  subject := ⟨d, member?_subject⟩

end manifests

namespace Storing

open Attempt (Yields Fails)

variable {remote : RemoteOptions} {o : StoreOptions} {q : StoreRequest} {xs : List Exchange}

/-! ## Refusals -/

/-- Failures that are seen as no refusals refuse nothing. -/
theorem not_isRefusal_mapError {ε α : Type} {f : ε → StoreFailure} (attempt : Attempt ε α)
    (h : ∀ e, ¬ (f e).IsRefusal) : Fails (¬ ·.IsRefusal) (attempt.mapError f) := by
  intro xs e hxs
  obtain ⟨e' | a, -, hmap⟩ := Attempt.yields_mapError.1 hxs
  · cases hmap
    exact h e'
  · cases hmap

theorem not_isRefusal_writeFailure (stage : WriteStage) (e : RemoteFailure) :
    ¬ (writeFailure stage e).IsRefusal := by
  cases e <;> exact id

theorem not_isRefusal_referrerFailure (stage : WriteStage) (e : RemoteFailure) :
    ¬ (referrerFailure stage e).IsRefusal := by
  unfold referrerFailure
  split
  · exact id
  · exact not_isRefusal_writeFailure _ _

/-- Only the layer is refused behind the resolution. -/
def RefusesLayer (q : StoreRequest) (r : Except StoreFailure Unit) : Prop :=
  ∀ e : StoreFailure, e.IsRefusal →
    (r = .error e ↔ ∃ cause, q.material.layer q.kind = .error cause ∧ e = .storage (.build cause))

/-- What is done with the layer refuses nothing. -/
theorem refusesLayer_built_bind {next : Layer → Storing Unit} {r : Except StoreFailure Unit}
    (hnext : ∀ layer, Fails (¬ ·.IsRefusal) (next layer))
    (h : Yields (built (q.material.layer q.kind) >>= next) xs r) : RefusesLayer q r := by
  intro e he
  cases hlayer : q.material.layer q.kind with
  | error cause =>
    rw [hlayer] at h
    obtain ⟨-, rfl⟩ := h
    simp [eq_comm]
  | ok layer =>
    rw [hlayer] at h
    refine iff_of_false ?_ (by simp)
    rintro rfl
    exact hnext layer h he

theorem refusesLayer_storeLegacy {entity : SignedEntity} {repository : Repository}
    {r : Except StoreFailure Unit} (h : Yields (storeLegacy remote q entity repository) xs r) :
    RefusesLayer q r :=
  refusesLayer_built_bind
    (fun _ => (not_isRefusal_mapError _ (not_isRefusal_writeFailure _)).bind fun _ =>
      Attempt.fails_log _ _)
    ((Attempt.same_log_bind _ _ _ _ _).1 h)

theorem refusesLayer_storeReferrers {entity : SignedEntity} {r : Except StoreFailure Unit}
    (h : Yields (storeReferrers remote q entity) xs r) : RefusesLayer q r :=
  refusesLayer_built_bind
    (fun _ => (not_isRefusal_mapError _ (not_isRefusal_referrerFailure _)).bind fun _ =>
      Attempt.fails_log _ _)
    ((Attempt.same_log_bind _ _ _ _ _).1 h)

/-! ## Images that are pushed -/

/-- The image has the resolved layers with the layer of the request, and is put at a subject. -/
theorem image_of_prepareReferrer {entity : SignedEntity} {image : ReadyImage}
    (h : Yields (prepareReferrer remote q entity) xs (.ok image)) :
    ∃ layer d, q.material.layer q.kind = .ok layer ∧
      image = ⟨q.artifact.repository, layer.appendTo (entity.layers q.kind),
        .subject d q.kind.artifactType []⟩ := by
  rcases yields_built_bind h with ⟨e, -, he⟩ | ⟨layer, hlayer, hdescribe⟩
  · cases he
  obtain ⟨_, _, d, -, -, -, himage⟩ := Attempt.yields_bind_ok.1 hdescribe
  cases himage
  exact ⟨layer, d, hlayer, rfl⟩

/-! ## Two stores from the same state -/

section stores

variable {σ : Type} {server : Session.Server σ} {state : σ} {format : Format}

/-- Only bundles do without the tag of the kind. -/
theorem neededSuffixes_of_ne_bundle (h : format ≠ .bundle) (kind : Kind) :
    neededSuffixes format kind = [kind.suffix] := by
  simp [neededSuffixes, h]

/-- A store refuses what is not resolved, and then what is not built. -/
theorem result_runFormat_iff (h : format ≠ .bundle) {e : StoreFailure} (he : e.IsRefusal) :
    let resolution := Session.run server (resolve remote q.artifact [q.kind.suffix]).run state
    (runFormat server remote o format q state).result = .error e ↔
      resolution.result = .error e ∨ ∃ entity cause, resolution.result = .ok entity ∧
        q.material.layer q.kind = .error cause ∧ e = .storage (.build cause) := by
  intro resolution
  have hrun : runFormat server remote o format q state = Session.run server
      (resolve remote q.artifact [q.kind.suffix] >>= fun entity =>
        storeAs format remote q entity (o.repository.getD q.artifact.repository)).run state := by
    rw [runFormat, runStore, storeWith_identifier, storeIn, neededSuffixes_of_ne_bundle h]
  rw [hrun, Attempt.run_bind]
  dsimp only
  cases resolution.result with
  | error e' => simp
  | ok entity =>
    simp only [Except.ok.injEq, exists_and_left, exists_eq_left', reduceCtorEq, false_or]
    have hyields := Attempt.yields_run server
      (storeAs format remote q entity (o.repository.getD q.artifact.repository)) resolution.state
    cases format with
    | legacy => exact refusesLayer_storeLegacy hyields e he
    | referrers => exact refusesLayer_storeReferrers hyields e he
    | bundle => exact absurd rfl h

/-- A store that succeeds pushes the image that it prepared for what was resolved. -/
theorem pushes_of_runFormat (h : format ≠ .bundle)
    (hok : (runFormat server remote o format q state).result = .ok ()) :
    ∃ entity ys image config,
      (Session.run server (resolve remote q.artifact [q.kind.suffix]).run state).result =
        .ok entity ∧
      Yields (prepareAs format remote q entity (o.repository.getD q.artifact.repository)) ys
        (.ok image) ∧
      (image.placement.config image.layers).canonical = .ok config ∧
      Pushes remote image.repository (runFormat server remote o format q state).exchanges config
        (Json.normal (imageManifest image.placement config image.layers)) := by
  have hyields := Attempt.yields_run server
    (storeWith remote { o with format := format.identifier } q) state
  rw [hok] at hyields
  obtain ⟨ys, image, config, hprepare, ⟨zs, hxs⟩, hconfig, hpushes⟩ := pushes_of_yields hyields
  obtain ⟨us, vs, entity, rfl, hresolve, himage⟩ := Attempt.yields_bind_ok.1 hprepare
  rw [Format.routed_identifier] at himage hresolve
  rw [neededSuffixes_of_ne_bundle h] at hresolve
  -- The exchanges of the resolution come first, so the server answers them from the same state.
  have hserved := Session.served_run server
    (storeWith remote { o with format := format.identifier } q).run state
  rw [hxs, List.append_assoc] at hserved
  obtain ⟨middle, hus, -⟩ := Session.served_append.1 hserved
  exact ⟨entity, vs, image, config, Session.result_eq_of_yields hresolve hus, himage, hconfig,
    hpushes⟩

/-- Whatever the server does, a store under the tag and a store as a referrer refuse the same
requests with the same failures. If both succeed, each pushes the layers that were resolved with
the layer of the request attached: the former in an image whose configuration lists their digests,
and the latter in one that has a subject instead. -/
theorem same_material (server : Session.Server σ) (state : σ) (remote : RemoteOptions)
    (o : StoreOptions) (q : StoreRequest) :
    let resolution := Session.run server (resolve remote q.artifact [q.kind.suffix]).run state
    let legacy := runFormat server remote o .legacy q state
    let referrer := runFormat server remote o .referrers q state
    (∀ e : StoreFailure, e.IsRefusal →
      (legacy.result = .error e ↔ referrer.result = .error e)) ∧
    (legacy.result = .ok () → referrer.result = .ok () →
      ∃ entity layer, resolution.result = .ok entity ∧ q.material.layer q.kind = .ok layer ∧
        let layers := (entity.attach layer q.kind).layers q.kind
        (∃ config manifest,
          Pushes remote (o.repository.getD q.artifact.repository) legacy.exchanges config
            manifest ∧
          TagManifest layers config manifest) ∧
        ∃ manifest,
          Pushes remote q.artifact.repository referrer.exchanges emptyConfig manifest ∧
          ReferrerManifest q.kind layers manifest) := by
  intro resolution legacy referrer
  have hlegacy : Format.legacy ≠ .bundle := by decide
  have hreferrers : Format.referrers ≠ .bundle := by decide
  constructor
  · intro e he
    exact (result_runFormat_iff hlegacy he).trans (result_runFormat_iff hreferrers he).symm
  intro hok hok'
  obtain ⟨entity, ys, image, config, hentity, himage, hconfig, hpushes⟩ :=
    pushes_of_runFormat hlegacy hok
  obtain ⟨entity', ys', image', config', hentity', himage', hconfig', hpushes'⟩ :=
    pushes_of_runFormat hreferrers hok'
  obtain rfl : entity = entity' := Except.ok.inj (hentity.symm.trans hentity')
  obtain ⟨layer, tag, hbuilt, -, rfl⟩ := extendsTag_of_prepareTagged himage
  obtain ⟨layer', d, hbuilt', rfl⟩ := image_of_prepareReferrer himage'
  obtain rfl : layer = layer' := Except.ok.inj (hbuilt.symm.trans hbuilt')
  obtain rfl : emptyConfig = config' := Except.ok.inj (canonical_emptyConfig.symm.trans hconfig')
  refine ⟨entity, layer, hentity, hbuilt, ?_⟩
  rw [SignedEntity.layers_attach]
  exact ⟨⟨config, _, hpushes, tagManifest_imageManifest hconfig⟩,
    ⟨_, hpushes', referrerManifest_imageManifest q.kind⟩⟩

theorem result_unsigned :
    (runFormat Registry.serve {} {} .legacy sampleRequest unsigned).result = .ok () ∧
      (runFormat Registry.serve {} {} .referrers sampleRequest unsigned).result = .ok () := by
  constructor
  · exact (store_signature (o := { format := Format.legacy.identifier })
      (Format.routed_identifier .legacy) parsed_sampleArtifact rfl parsed_sampleArtifact.repository
      tag_sampleRequest resolves_unsigned (by decide) (by decide)).1
  · exact (store_signatureReferrer (o := { format := Format.referrers.identifier })
      (Format.routed_identifier .referrers) parsed_sampleArtifact parsed_sampleArtifact.repository
      rfl tag_sampleRequest lookup_unsigned.1 (.missing lookup_unsigned.2) (by decide)
      (by decide)).2

/-- Both stores of a signature succeed where the artifact has none. -/
theorem same_material_unsigned :
    let legacy := runFormat Registry.serve {} {} .legacy sampleRequest unsigned
    let referrer := runFormat Registry.serve {} {} .referrers sampleRequest unsigned
    legacy.result = .ok () ∧ referrer.result = .ok () ∧ ∃ layer config manifest manifest',
      sampleRequest.material.layer .signature = .ok layer ∧
        TagManifest [layer] config manifest ∧ ReferrerManifest .signature [layer] manifest' := by
  intro legacy referrer
  have hok : legacy.result = .ok () := result_unsigned.1
  have hok' : referrer.result = .ok () := result_unsigned.2
  obtain ⟨entity, layer, hentity, hlayer, ⟨config, manifest, -, hmanifest⟩, manifest', -,
    hmanifest'⟩ := (same_material Registry.serve unsigned {} {} sampleRequest).2 hok hok'
  obtain ⟨entity', hentity', hnone⟩ := resolves_unsigned
  obtain rfl : entity = entity' := Except.ok.inj (hentity.symm.trans hentity')
  have hlayers : (entity.attach layer sampleRequest.kind).layers sampleRequest.kind = [layer] := by
    rw [SignedEntity.layers_attach]
    exact congrArg layer.appendTo hnone
  rw [hlayers] at hmanifest hmanifest'
  exact ⟨hok, hok', layer, config, manifest, manifest', hlayer, hmanifest, hmanifest'⟩

end stores

end Storing
end Signet
