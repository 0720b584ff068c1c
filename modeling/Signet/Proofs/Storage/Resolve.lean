import Mathlib
import Signet.Proofs.Reference.Artifact
import Signet.Proofs.Registry.Layers
import Signet.Proofs.Remote.Described
import Signet.Proofs.Storage.Prepared
import Signet.Proofs.Text.Decimal

/-!
# What is resolved

An artifact is resolved by the manifest under its digest and by the image under its tag. If
the manifest is there, the layers that are resolved are those of the tag image; otherwise a
placeholder without layers is resolved, whatever is kept under the tag.

## Main definitions

* `Registry.describe` — what a question for the headers of a manifest leads to.
* `Storing.Resolves` — the layers of a kind that an artifact is resolved with.
-/
namespace Signet

open Attempt (Sends)

/-! ## Descriptions of manifests -/

namespace Registry

variable {r r' : Registry} {o : RemoteOptions} {repository : Repository} {reference : Text}

/-- A manifest is described by its headers, or by its content if the headers are incomplete. -/
def describe (repository : Repository) (reference : Text) :
    Option StoredManifest → Except RemoteFailure Descriptor
  | none => .error (.registry (.missing repository reference))
  | some m =>
    Remote.readHeaders repository reference (bodyFor .head (showManifest m)).readUtf8 >>= fun
      | some descriptor => .ok descriptor
      | none => (Remote.readManifest repository reference (showManifest m).readUtf8).map Prod.snd

theorem outcome_headManifest (h : repository.Parsed) (hwhole : Remote.Whole reference) :
    outcome r (Remote.headManifest o repository reference) =
      describe repository reference (Assoc.lookup (keyOf repository reference) r.manifests) := by
  rw [Remote.headManifest, outcome_bind (Remote.sends_ask (Remote.reads_manifestRequest rfl _)),
    outcome_ask, replyTo_manifest h hwhole (by decide)]
  cases hm : Assoc.lookup (keyOf repository reference) r.manifests with
  | none => rfl
  | some m =>
    rw [describe]
    dsimp only
    refine bind_congr ?_
    intro described
    cases described with
    | some descriptor => rfl
    | none =>
      dsimp only
      rw [outcome_bind (Remote.sends_getManifest reference), outcome_getManifest h hwhole, hm]
      dsimp only
      cases Remote.readManifest repository reference (showManifest m).readUtf8 <;> rfl

/-- The headers of a manifest that was pushed by the client are complete. -/
theorem describe_pushed {m : StoredManifest} (hmediaType : m.mediaType = MediaType.imageManifest)
    (hlength : m.content.length < 2 ^ 63) :
    describe repository reference (some m) = .ok
      { mediaType := MediaType.imageManifest, digest := sha256Digest m.content,
        size := m.content.length } := by
  have hcomplete := describesManifest_showManifest (by rw [hmediaType]; decide)
  obtain ⟨t, htype, -, hheaders⟩ := @Remote.readHeaders_of_mirrors repository reference _ _
    (mirrors_showManifest m) hcomplete
  have hcount : Decimal.digitCount (showManifest m).readUtf8.body.length ≤ Decimal.maxDigits :=
    Decimal.digitCount_le_of_lt hlength
  have hbare : Remote.bareMediaType t = MediaType.imageManifest := by
    rw [(header?_showManifest m).2.1, hmediaType] at htype
    rw [← Option.some.inj htype]
    decide
  rw [describe, hheaders, if_pos hcount, hbare]
  rfl

theorem describe_eq_ok {m : StoredManifest} (hmediaType : m.mediaType = MediaType.imageManifest)
    (hlength : m.content.length < 2 ^ 63) :
    ∃ descriptor, describe repository reference (some m) = .ok descriptor :=
  ⟨_, describe_pushed hmediaType hlength⟩

/-- A manifest that is there is not missed. -/
theorem describe_ne_missing {m : StoredManifest} {repository' : Repository} {reference' : Text} :
    describe repository reference (some m) ≠
      .error (.registry (.missing repository' reference')) := by
  have hstatus : Remote.checkManifest repository reference
      (bodyFor .head (showManifest m)).readUtf8 = .ok () := Remote.checkManifest_eq_ok_iff.2 rfl
  rw [describe, Remote.readHeaders, hstatus]
  dsimp only [Bind.bind, Except.bind]
  cases Remote.describeByHeaders (bodyFor .head (showManifest m)).readUtf8 with
  | none =>
    dsimp only
    cases hread : Remote.readManifest repository reference (showManifest m).readUtf8 with
    | ok x => simp [Except.map]
    | error e =>
      intro h
      cases h
      exact Remote.readManifest_ne_missing rfl hread
  | some described => cases described <;> simp

/-- The headers of the manifest are complete, or can be understood without being so. -/
def Describable (repository : Repository) (reference : Text) (m : StoredManifest) : Prop :=
  m.mediaType = MediaType.imageManifest ∨
    ∃ descriptor, describe repository reference (some m) = .ok descriptor

/-- A manifest that can be described is still there and can be described after the registry has
grown. -/
theorem Grows.describable {only : Key → Prop} (hg : Grows only r r')
    (h : ∃ m, Assoc.lookup (keyOf repository reference) r.manifests = some m ∧
      Describable repository reference m) :
    ∃ m, Assoc.lookup (keyOf repository reference) r'.manifests = some m ∧
      Describable repository reference m := by
  obtain ⟨m, hm, hdescribable⟩ := h
  obtain ⟨m', hm', rfl | hpushed⟩ := hg.pushed hm
  · exact ⟨m', hm', hdescribable⟩
  · exact ⟨m', hm', .inl hpushed⟩

end Registry

namespace Storing

open Registry (outcome outcome_bind_eq_ok_iff keyOf Image describe)

variable {r r' : Registry} {o : RemoteOptions} {artifact : Artifact} {kind : Kind} {tag : Text}

/-! ## Resolving -/

/-- The artifact is resolved with the layers of the kind. -/
def Resolves (r : Registry) (o : RemoteOptions) (artifact : Artifact) (kind : Kind)
    (layers : List Layer) : Prop :=
  ∃ entity, outcome r (resolve o artifact [kind.suffix]) = .ok entity ∧
    entity.layers kind = layers

theorem whole_suffix (kind : Kind) : Remote.Whole kind.suffix := by
  cases kind <;> decide

theorem outcome_tagFor (htag : artifact.tag? kind.suffix = some tag) :
    outcome r (Remote.tagFor artifact kind.suffix) = .ok tag := by
  rw [Remote.tagFor, htag]
  rfl

/-- What is loaded for the kind that is asked for. -/
theorem outcome_loadKind (htag : artifact.tag? kind.suffix = some tag) :
    outcome r (Remote.loadKind o artifact [kind.suffix] kind) =
      outcome r (Remote.loadLayers o artifact.repository tag) := by
  rw [Remote.loadKind, if_pos (by simp), Registry.outcome_bind (Remote.sends_tagFor _ _),
    outcome_tagFor htag]
  dsimp only [Bind.bind, Except.bind]

theorem outcome_signedEntity (h : artifact.Parsed) (htag : artifact.tag? kind.suffix = some tag) :
    outcome r (Remote.signedEntity o artifact [kind.suffix]) = do
      let descriptor ← describe artifact.repository artifact.digest
        (Assoc.lookup (keyOf artifact.repository artifact.digest) r.manifests)
      let layers ← outcome r (Remote.loadLayers o artifact.repository tag)
      match kind with
      | .signature => return { artifact, descriptor := some descriptor, signatures := layers }
      | .attestation =>
        return { artifact, descriptor := some descriptor, attestations := layers } := by
  have hloaded := outcome_loadKind (r := r) (o := o) htag
  rw [Remote.signedEntity, Registry.outcome_bind (Remote.sends_headManifest _),
    Registry.outcome_headManifest h.repository (Remote.whole_digest h)]
  refine bind_congr ?_
  intro descriptor
  rw [Registry.outcome_bind (Remote.sends_loadKind _ _ _)]
  cases kind with
  | signature =>
    rw [hloaded]
    refine bind_congr ?_
    intro layers
    rw [Remote.loadKind, if_neg (by decide), pure_bind]
    rfl
  | attestation =>
    rw [Remote.loadKind, if_neg (by decide), Registry.outcome_pure, ← hloaded]
    exact Registry.outcome_bind (Remote.sends_loadKind _ _ _) _

/-- An artifact that can be described is read with the layers of its tag image. -/
theorem signedEntity_of_image (h : artifact.Parsed) (htag : artifact.tag? kind.suffix = some tag)
    {d : Descriptor} (hdescribed : describe artifact.repository artifact.digest
      (Assoc.lookup (keyOf artifact.repository artifact.digest) r.manifests) = .ok d)
    {layers : List Layer} (himage : Image r o artifact.repository tag layers) :
    ∃ entity, outcome r (Remote.signedEntity o artifact [kind.suffix]) = .ok entity ∧
      entity.layers kind = layers ∧ entity.descriptor = some d ∧ entity.known = true := by
  have hlayers := (Registry.outcome_loadLayers_eq_ok_iff h.repository
    (Remote.whole_tag h (whole_suffix kind) htag)).2 himage
  rw [outcome_signedEntity h htag, hdescribed, hlayers]
  cases kind with
  | signature => exact ⟨_, rfl, rfl, rfl, rfl⟩
  | attestation => exact ⟨_, rfl, rfl, rfl, rfl⟩

/-- An artifact whose manifest is not there is resolved to a placeholder. -/
theorem outcome_resolve_of_missing (h : artifact.Parsed)
    (hm : Assoc.lookup (keyOf artifact.repository artifact.digest) r.manifests = none) :
    outcome r (resolve o artifact [kind.suffix]) = .ok (.unknown artifact) := by
  obtain ⟨tag, htag⟩ := h.exists_tag kind.suffix
  rw [resolve, Registry.outcome_recover, outcome_signedEntity h htag, hm]
  rfl

theorem resolves_iff_of_missing (h : artifact.Parsed)
    (hm : Assoc.lookup (keyOf artifact.repository artifact.digest) r.manifests = none)
    {layers : List Layer} : Resolves r o artifact kind layers ↔ layers = [] := by
  rw [Resolves, outcome_resolve_of_missing h hm]
  cases kind <;> simp [SignedEntity.unknown, SignedEntity.layers, eq_comm]

/-- Only a missing manifest is resolved to a placeholder. -/
theorem outcome_resolve_of_error {e : RemoteFailure} {suffixes : List Text}
    (he : outcome r (Remote.signedEntity o artifact suffixes) = .error e)
    (hmissing : ∀ repository reference, e ≠ .registry (.missing repository reference))
    {entity : SignedEntity} : outcome r (resolve o artifact suffixes) ≠ .ok entity := by
  rw [resolve, Registry.outcome_recover, he]
  dsimp only
  split
  · exact absurd rfl (hmissing _ _)
  · simp
  · simp

/-- An artifact whose manifest is there is resolved with the layers of its tag image. -/
theorem resolves_iff (h : artifact.Parsed) (htag : artifact.tag? kind.suffix = some tag)
    {m : StoredManifest}
    (hm : Assoc.lookup (keyOf artifact.repository artifact.digest) r.manifests = some m)
    {layers : List Layer} :
    Resolves r o artifact kind layers ↔
      (∃ descriptor, describe artifact.repository artifact.digest (some m) = .ok descriptor) ∧
        Image r o artifact.repository tag layers := by
  have hwhole := Remote.whole_tag h (whole_suffix kind) htag
  have hentity := outcome_signedEntity (r := r) (o := o) h htag
  rw [hm] at hentity
  rw [← Registry.outcome_loadLayers_eq_ok_iff h.repository hwhole, Resolves]
  cases hdescribe : describe artifact.repository artifact.digest (some m) with
  | error e =>
    rw [hdescribe] at hentity
    constructor
    · rintro ⟨entity, hresolve, -⟩
      refine absurd hresolve (outcome_resolve_of_error hentity ?_)
      intro _ _ he
      rw [he] at hdescribe
      exact Registry.describe_ne_missing hdescribe
    · rintro ⟨⟨_, hok⟩, -⟩
      cases hok
  | ok descriptor =>
    rw [hdescribe] at hentity
    cases hload : outcome r (Remote.loadLayers o artifact.repository tag) with
    | error e =>
      rw [hload] at hentity
      constructor
      · rintro ⟨entity, hresolve, -⟩
        refine absurd hresolve (outcome_resolve_of_error hentity ?_)
        intro _ _ he
        rw [he] at hload
        exact Registry.outcome_loadLayers_ne_missing h.repository hwhole hload
      · rintro ⟨-, hok⟩
        cases hok
    | ok loaded =>
      rw [hload] at hentity
      rw [resolve, Registry.outcome_recover, hentity]
      cases kind <;> simp [Bind.bind, Except.bind, pure, Except.pure, SignedEntity.layers]

end Storing
end Signet
