import Mathlib
import Signet.Proofs.Registry.Frame
import Signet.Proofs.Storage.Run

/-!
# A tag image that is read back

Reading undoes writing. Layers go to a registry as descriptors in a manifest and as blobs, each
content once; the reader finds every descriptor in the manifest again and fetches its content.
The two meet at what the registry keeps: the manifest is in canonical form, so it is read as it
was written, and a blob that was there before has the same digest, so the same content.

## Main definitions

* `Layer.Equiv` — the same type, content and annotations.
* `Layer.Writable` — the layer can be described in a manifest.
* `Registry.Short` — all bytes of an image can be counted.
-/
namespace Signet

/-! ## Layers that can be written -/

namespace Layer

/-- The same type, the same content and the same annotations in any order. -/
structure Equiv (l l' : Layer) : Prop where
  mediaType : l'.mediaType = l.mediaType
  content : l'.content = l.content
  annotations : l'.annotations.Perm l.annotations

/-- A layer that can be described in a manifest: no surrogate occurs in its texts. -/
structure Writable (l : Layer) : Prop extends Sound l where
  cleanType : l.mediaType.Clean
  cleanAnnotations : ∀ p ∈ l.annotations, p.1.Clean ∧ p.2.Clean

/-- Matching layers are the same if the digests of their contents differ. -/
theorem Matches.equiv {l l' : Layer} (h : l.Matches l') {contents : List Bytes}
    (hdiffer : DigestsDiffer contents) (hl : l.content ∈ contents) (hl' : l'.content ∈ contents) :
    l.Equiv l' where
  mediaType := h.mediaType
  content := hdiffer _ hl' _ hl h.digest
  annotations := Json.perm_of_sortKeys_eq h.annotations

theorem AllMatch.equiv {layers layers' : List Layer} (h : AllMatch layers layers')
    {contents : List Bytes} (hdiffer : DigestsDiffer contents)
    (hlayers : ∀ l ∈ layers, l.content ∈ contents)
    (hlayers' : ∀ l ∈ layers', l.content ∈ contents) : List.Forall₂ Equiv layers layers' := by
  induction h with
  | nil => exact .nil
  | @cons l l' rest rest' hl _ ih =>
    exact .cons (hl.equiv hdiffer (hlayers l (by simp)) (hlayers' l' (by simp)))
      (ih (fun other hother => hlayers other (by simp [hother]))
        fun other hother => hlayers' other (by simp [hother]))

end Layer

namespace Registry

/-- All bytes of an image are fewer than `2 ^ 63`. -/
structure Short (placement : Placement) (layers : List Layer) : Prop where
  content : ∀ l ∈ layers, l.content.length < 2 ^ 63
  config : ∀ config, (placement.config layers).canonical = .ok config → config.length < 2 ^ 63
  manifest : ∀ config manifest, Renders placement layers config manifest →
    manifest.length < 2 ^ 63

/-- An image of layers that can be written is rendered. -/
theorem exists_renders {tag : Text} {layers : List Layer} (h : ∀ l ∈ layers, l.Writable)
    (hshort : Short (.tag tag) layers) :
    ∃ config manifest, Renders (.tag tag) layers config manifest := by
  obtain ⟨config, hconfig⟩ := (Placement.tag tag).canonical_config layers
  have hdescribed : Json.Plain (Descriptor.toJson
      { mediaType := MediaType.imageConfig, digest := sha256Digest config,
        size := config.length }) :=
    Descriptor.plain_toJson (by decide : Text.Clean MediaType.imageConfig)
      (clean_sha256Digest config)
      (by simpa using hshort.config config hconfig) rfl (by simp)
  have hlayers : Json.Plain (.array (layers.map fun l => l.descriptor.toJson)) := by
    apply Json.Plain.array
    intro v hv
    obtain ⟨l, hl, rfl⟩ := List.mem_map.1 hv
    exact Descriptor.plain_toJson (h l hl).cleanType (clean_sha256Digest l.content)
      (by simpa [Layer.descriptor, Layer.size] using hshort.content l hl) rfl
      (h l hl).cleanAnnotations
  have hmember : ∀ p ∈ manifestMembers (.tag tag) config layers, Text.Clean p.1 ∧ p.2.Plain := by
    simp only [manifestMembers, Placement.members, List.append_nil, List.forall_mem_cons]
    exact ⟨⟨by decide, .int (by decide)⟩, ⟨by decide, .text (by decide)⟩, ⟨by decide, hdescribed⟩,
      ⟨by decide, hlayers⟩, by simp⟩
  have hplain : (imageManifest (.tag tag) config layers).Plain := by
    rw [imageManifest_eq]
    exact .object (fun p hp => (hmember p hp).1) fun p hp => (hmember p hp).2
  obtain ⟨manifest, hmanifest⟩ := hplain.canonical_eq_ok
  exact ⟨config, manifest, hconfig, hmanifest⟩

end Registry

namespace Storing

open Registry (Image InLine Short Renders describe keyOf outcome after)

variable {r : Registry} {o : RemoteOptions} {artifact : Artifact} {kind : Kind} {tag : Text}

/-! ## Writing and reading -/

/-- Layers that are rendered are written under the tag of their kind. -/
theorem writeTagged_eq (hartifact : artifact.Parsed) (hline : InLine artifact.repository)
    (hbracket : ('[' : CodePoint) ∉ artifact.repository.registry) {entity : SignedEntity}
    (hentity : entity.artifact = artifact) (htag : artifact.tag? kind.suffix = some tag)
    {config manifest : Bytes} (hrenders : Renders (.tag tag) (entity.layers kind) config manifest) :
    outcome r (Remote.writeTagged o artifact.repository entity kind) =
        .ok (sha256Digest manifest) ∧
      after r (Remote.writeTagged o artifact.repository entity kind) =
        r.withImage artifact.repository (.tag tag) (entity.layers kind) config manifest := by
  have htagged : outcome r (Remote.tagFor entity.artifact kind.suffix) = .ok tag := by
    rw [hentity]
    exact outcome_tagFor htag
  have hunchanged : after r (Remote.tagFor entity.artifact kind.suffix) = r :=
    Registry.after_of_reads (Remote.sends_tagFor _ _)
  have hwritten := Registry.writeImage_eq (r := r) (o := o) hartifact.repository hrenders
    (.inl (Registry.uploadName?_eq_some hartifact.repository hline hbracket o))
    (Remote.whole_tag hartifact (whole_suffix kind) htag)
  rw [Remote.writeTagged, Registry.outcome_bind_of_ok htagged, Registry.after_bind_of_ok htagged,
    hunchanged]
  exact hwritten

/-- A manifest that can be described stays so when an image is written. -/
theorem describe_withImage {repository : Repository} {reference : Text} {placement : Placement}
    {layers : List Layer} {config manifest : Bytes} (hlength : manifest.length < 2 ^ 63)
    (h : ∃ descriptor, describe repository reference
      (Assoc.lookup (keyOf repository reference) r.manifests) = .ok descriptor) :
    ∃ descriptor, describe repository reference
      (Assoc.lookup (keyOf repository reference)
        (r.withImage repository placement layers config manifest).manifests) = .ok descriptor := by
  rw [Registry.withImage, Registry.lookup_manifests_keep, Registry.manifests_withBlobs]
  split_ifs
  · exact Registry.describe_eq_ok rfl hlength
  · exact h

/-- Reading a tag image undoes writing it. The layers of a kind that are written to the repository
of an artifact are read from it in the same order, with the same types, contents and annotations,
if they can be written, if the artifact is there and uploads can be sent to its repository, and if
SHA-256 does not collide on the contents. Bytes are taken to be fewer than `2 ^ 63`, so that
lengths can be written and read. -/
theorem written_read_back (r : Registry) (hr : r.Hashed) (o reader : RemoteOptions) (kind : Kind)
    {reference : Text} (artifact : Artifact) (hparse : Artifact.parse reference = .ok artifact)
    (hline : InLine artifact.repository)
    (hbracket : ('[' : CodePoint) ∉ artifact.repository.registry)
    (hpresent : ∃ descriptor, outcome r
      (Remote.headManifest reader artifact.repository artifact.digest) = .ok descriptor)
    (entity : SignedEntity) (hentity : entity.artifact = artifact)
    (hwritable : ∀ l ∈ entity.layers kind, l.Writable) (tag : Text)
    (htag : artifact.tag? kind.suffix = some tag) (hshort : Short (.tag tag) (entity.layers kind))
    (hdiffer : DigestsDiffer
      ((after r (Remote.writeTagged o artifact.repository entity kind)).blobs.map Prod.snd ++
        (entity.layers kind).map Layer.content)) :
    (∃ digest, outcome r (Remote.writeTagged o artifact.repository entity kind) = .ok digest) ∧
      ∃ found, outcome (after r (Remote.writeTagged o artifact.repository entity kind))
          (Remote.signedEntity reader artifact [kind.suffix]) = .ok found ∧
        List.Forall₂ Layer.Equiv (entity.layers kind) (found.layers kind) := by
  have hartifact := Artifact.parsed_of_parse hparse
  obtain ⟨config, manifest, hrenders⟩ := Registry.exists_renders hwritable hshort
  obtain ⟨hwritten, hafter⟩ :=
    writeTagged_eq (r := r) (o := o) hartifact hline hbracket hentity htag hrenders
  rw [hafter] at hdiffer ⊢
  refine ⟨⟨_, hwritten⟩, ?_⟩
  rw [Registry.outcome_headManifest hartifact.repository (Remote.whole_digest hartifact)]
    at hpresent
  -- What the registry keeps now is what the reader finds.
  obtain ⟨layers, himage, hmatch, hblobs⟩ :=
    (Registry.keeps_withImage hrenders).image_of_blobs (Registry.hashed_withImage hr)
      hartifact.repository (fun l hl => (hwritable l hl).toSound) reader
  obtain ⟨d, hdescribed⟩ :=
    describe_withImage (hshort.manifest config manifest hrenders) hpresent
  obtain ⟨found, hfound, hlayers, -⟩ := signedEntity_of_image hartifact htag hdescribed himage
  refine ⟨found, hfound, ?_⟩
  rw [hlayers]
  refine hmatch.equiv hdiffer (fun l hl => List.mem_append_right _ (List.mem_map_of_mem hl)) ?_
  intro l hl
  obtain ⟨key, hkey⟩ := hblobs l hl
  exact List.mem_append_left _ (List.mem_map.2 ⟨_, Assoc.mem_of_lookup_eq_some hkey, rfl⟩)

/-- A layer without content, with marks that are escaped and characters beyond ASCII. -/
def emptyLayer : Layer :=
  { mediaType := "a/b;c=\"é\""
    content := []
    annotations := [("z", "\\\n"), ("", "𝄞")] }

/-- The artifact with two signatures that are the same. -/
def signedTwice : SignedEntity :=
  { artifact := sampleArtifact, signatures := [emptyLayer, emptyLayer] }

def twiceConfig : Bytes := written ((Placement.tag sampleTag).config signedTwice.signatures)

def twiceManifest : Bytes :=
  written (imageManifest (.tag sampleTag) twiceConfig signedTwice.signatures)

theorem computed_signedTwice :
    (imageManifest (.tag sampleTag) twiceConfig signedTwice.signatures).canonical.toOption.isSome =
      true ∧ twiceConfig.length < 2 ^ 63 ∧ twiceManifest.length < 2 ^ 63 ∧
    ([twiceConfig, []].map sha256Digest).Nodup := by
  decide +kernel

theorem renders_signedTwice :
    Renders (.tag sampleTag) signedTwice.signatures twiceConfig twiceManifest :=
  renders_written computed_signedTwice.1

theorem short_signedTwice : Short (.tag sampleTag) signedTwice.signatures := by
  have hconfig {config : Bytes} (h : ((Placement.tag sampleTag).config
      signedTwice.signatures).canonical = .ok config) : twiceConfig = config :=
    Except.ok.inj (renders_signedTwice.config_eq.symm.trans h)
  refine ⟨by decide, fun config h => hconfig h ▸ computed_signedTwice.2.1, ?_⟩
  intro config manifest h
  obtain rfl := hconfig h.config_eq
  obtain rfl := Except.ok.inj (renders_signedTwice.manifest_eq.symm.trans h.manifest_eq)
  exact computed_signedTwice.2.2.1

theorem digestsDiffer_signedTwice : DigestsDiffer
    ((after unsigned (Remote.writeTagged {} sampleArtifact.repository signedTwice
      .signature)).blobs.map Prod.snd ++ (signedTwice.layers .signature).map Layer.content) := by
  have htag : sampleArtifact.tag? Kind.signature.suffix = some sampleTag := tag_sampleRequest
  have hafter := (writeTagged_eq (r := unsigned) (o := {}) parsed_sampleArtifact (by decide)
    (by decide) rfl htag renders_signedTwice).2
  have hcontents : (signedTwice.layers .signature).map Layer.content = [[], []] := rfl
  rw [hafter, Registry.blobs_withImage]
  refine (digestsDiffer_of_nodup computed_signedTwice.2.2.2).mono (List.append_subset.2 ⟨?_, ?_⟩)
  · refine List.Subset.trans (Registry.blobs_withBlobs _ _) ?_
    rw [hcontents]
    simp [unsigned]
  · simp [hcontents]

theorem written_read_back_twice :
    ((∃ descriptor, outcome unsigned (Remote.headManifest {} sampleArtifact.repository
      sampleArtifact.digest) = .ok descriptor) ∧ ∀ l ∈ signedTwice.signatures, l.Writable) ∧
    (∃ digest, outcome unsigned (Remote.writeTagged {} sampleArtifact.repository signedTwice
      .signature) = .ok digest) ∧
    ∃ found, outcome (after unsigned (Remote.writeTagged {} sampleArtifact.repository signedTwice
        .signature)) (Remote.signedEntity {} sampleArtifact ["sig"]) = .ok found ∧
      List.Forall₂ Layer.Equiv [emptyLayer, emptyLayer] found.signatures := by
  have hashed : unsigned.Hashed := by
    intro key content h
    cases h
  have hpresent : ∃ descriptor, outcome unsigned (Remote.headManifest {} sampleArtifact.repository
      sampleArtifact.digest) = .ok descriptor := by
    rw [Registry.outcome_headManifest parsed_sampleArtifact.repository
      (Remote.whole_digest parsed_sampleArtifact)]
    exact Registry.describe_eq_ok rfl (by decide)
  have hwritable : ∀ l ∈ signedTwice.signatures, l.Writable := by
    have hempty : emptyLayer.Writable :=
      { mediaType := by decide
        annotations := (by decide : [("z" : Text), ""].Nodup)
        cleanType := by decide
        cleanAnnotations := by decide }
    intro l hl
    simp only [signedTwice, List.mem_cons, List.not_mem_nil, or_false, or_self] at hl
    rwa [hl]
  exact ⟨⟨hpresent, hwritable⟩,
    written_read_back unsigned hashed {} {} .signature sampleArtifact parse_sampleReference
      (by decide) (by decide) hpresent signedTwice rfl hwritable sampleTag tag_sampleRequest
      short_signedTwice digestsDiffer_signedTwice⟩

end Storing
end Signet
