import Mathlib
import Signet.Payload.Simple
import Signet.Proofs.Json.Canonical
import Signet.Proofs.Reference.Artifact

/-!
# Payloads of parsed artifacts

The names that a simple signing payload states are ASCII if they come from a parsed artifact, so
there are always bytes to sign. The bytes state the image: the repository is found again in its
printed name, and the metadata stands in a member of its own, so that nothing in it can make up
for another name or digest.
-/
namespace Signet

theorem Artifact.Parsed.clean_repository {artifact : Artifact} (h : artifact.Parsed) :
    artifact.repository.toText.Clean :=
  Text.clean_of_ascii fun _ hc => h.repository.val_of_mem_toText hc

theorem Artifact.Parsed.clean_digest {artifact : Artifact} (h : artifact.Parsed) :
    artifact.digest.Clean := by
  obtain ⟨algorithm, hex, hparts⟩ := h.digest
  exact Text.clean_of_ascii fun _ hc => hparts.val_of_mem hc

/-- The printed name of the repository and the digest determine a parsed artifact. -/
theorem Artifact.Parsed.names_eq_iff {image image' : Artifact} (h : image.Parsed)
    (h' : image'.Parsed) :
    image.repository.toText = image'.repository.toText ∧ image.digest = image'.digest ↔
      image = image' := by
  constructor
  · intro hnames
    have hrepository := h.repository.toText_injective h'.repository hnames.1
    obtain ⟨repository, digest⟩ := image
    obtain ⟨repository', digest'⟩ := image'
    exact Artifact.mk.injEq .. ▸ ⟨hrepository, hnames.2⟩
  · intro heq
    exact heq ▸ ⟨rfl, rfl⟩

namespace SimplePayload

variable {p : SimplePayload}

/-! ## Parts of a payload -/

/-- The part that names the image. -/
def critical (p : SimplePayload) : Json :=
  .object
    [("identity", .object [("docker-reference", .text p.dockerReference)]),
     ("image", .object [("docker-manifest-digest", .text p.manifestDigest)]),
     ("type", .text typeName)]

/-- The part that is not verified. -/
def metadata (p : SimplePayload) : Json :=
  if p.optional.isEmpty then .null else .object p.optional

theorem toJson_eq (p : SimplePayload) :
    p.toJson = .object [("critical", p.critical), ("optional", p.metadata)] := rfl

theorem plain_toJson (hreference : p.dockerReference.Clean) (hdigest : p.manifestDigest.Clean)
    (hoptional : (Json.object p.optional).Plain) : p.toJson.Plain := by
  have hone {key : Text} {v : Json} (hkey : key.Clean) (hv : v.Plain) :
      (Json.object [(key, v)]).Plain :=
    .object (by simpa using hkey) (by simpa using hv)
  have hcritical : p.critical.Plain := by
    refine .object (by simpa using ⟨by decide, by decide, by decide⟩) ?_
    simpa using ⟨hone (by decide) (.text hreference), hone (by decide) (.text hdigest),
      Json.Plain.text (by decide : Text.Clean typeName)⟩
  have hmetadata : p.metadata.Plain := by
    rw [metadata]
    split
    · exact .null
    · exact hoptional
  exact .object (by simpa using ⟨by decide, by decide⟩)
    (List.forall_mem_cons.2 ⟨hcritical, List.forall_mem_singleton.2 hmetadata⟩)

/-- The payload of a parsed artifact without metadata can be signed. -/
theorem exists_toBytes {artifact : Artifact} (h : artifact.Parsed) :
    ∃ bytes, (ofArtifact artifact).toBytes = .ok bytes := by
  have hplain : (ofArtifact artifact).toJson.Plain :=
    plain_toJson h.clean_repository h.clean_digest (.object (List.forall_mem_nil _)
      (List.forall_mem_nil _))
  exact hplain.canonical_eq_ok

theorem uniqueKeys_toJson (h : (Json.object p.optional).UniqueKeys) : p.toJson.UniqueKeys := by
  have hone {key : Text} {v : Json} (hv : v.UniqueKeys) : (Json.object [(key, v)]).UniqueKeys :=
    .object (List.nodup_singleton key) (List.forall_mem_singleton.2 hv)
  have hcritical : p.critical.UniqueKeys := by
    refine .object (by decide : [("identity" : Text), "image", "type"].Nodup) ?_
    simpa using ⟨hone (.text _), hone (.text _), Json.UniqueKeys.text typeName⟩
  have hmetadata : p.metadata.UniqueKeys := by
    rw [metadata]
    split
    · exact .null
    · exact h
  exact .object (by decide : [("critical" : Text), "optional"].Nodup)
    (List.forall_mem_cons.2 ⟨hcritical, List.forall_mem_singleton.2 hmetadata⟩)

/-! ## What is signed -/

/-- Both name the same image. -/
theorem rearranged_critical_iff (p q : SimplePayload) :
    Json.Rearranged p.critical q.critical ↔
      p.dockerReference = q.dockerReference ∧ p.manifestDigest = q.manifestDigest := by
  have himage : ("image" : Text) ≠ "identity" := by decide
  have htype : ("type" : Text) ≠ "identity" := by decide
  have hlast : ∀ r ∈ [(("type" : Text), Json.text typeName)], r.1 ≠ "image" :=
    List.forall_mem_singleton.2 (by decide)
  rw [critical, critical, Json.Rearranged.object_cons_iff (by simpa using ⟨himage, htype⟩)
    (by simpa using ⟨himage, htype⟩), Json.Rearranged.object_cons_iff hlast hlast]
  simp only [Json.Rearranged.object_singleton_iff, Json.Rearranged.text_iff, and_true]

/-- Null stands for no metadata, and for nothing else. -/
theorem rearranged_metadata_iff (p q : SimplePayload) :
    Json.Rearranged p.metadata q.metadata ↔
      Json.Rearranged (.object p.optional) (.object q.optional) := by
  have hnot {r : Text × Json} {rest : Json.Members} :
      ¬ Json.Rearranged (.object []) (.object (r :: rest)) := by
    intro h
    cases h with
    | object hkeys _ => exact absurd hkeys.nil_eq (List.cons_ne_nil _ _).symm
  rw [metadata, metadata]
  cases p.optional with
  | nil =>
    cases q.optional with
    | nil => exact iff_of_true .null .object_nil
    | cons r rest => exact iff_of_false (fun h => nomatch h) hnot
  | cons r rest =>
    cases q.optional with
    | nil => exact iff_of_false (fun h => nomatch h) fun h => hnot h.symm
    | cons r' rest' => exact Iff.rfl

/-- Payloads agree if their names and their metadata do. -/
theorem rearranged_toJson_iff (p q : SimplePayload) :
    Json.Rearranged p.toJson q.toJson ↔
      (p.dockerReference = q.dockerReference ∧ p.manifestDigest = q.manifestDigest) ∧
        Json.Rearranged (.object p.optional) (.object q.optional) := by
  have hkey : ("optional" : Text) ≠ "critical" := by decide
  have hoptional (v : Json) : ∀ r ∈ [(("optional" : Text), v)], r.1 ≠ "critical" :=
    List.forall_mem_singleton.2 hkey
  rw [toJson_eq, toJson_eq, Json.Rearranged.object_cons_iff (hoptional _) (hoptional _),
    Json.Rearranged.object_singleton_iff, rearranged_critical_iff, rearranged_metadata_iff]

/-- What is signed for a parsed artifact states the image and the metadata: there are always bytes
to sign, and they are the same only for the same image, whatever the metadata is, and for metadata
that agrees up to the order of members at every depth. No metadata and an empty object of it are
the same. -/
theorem bytes_identify_image {s s' : Text} {image image' : Artifact}
    {optional optional' : Option Json.Members} (himage : Artifact.parse s = .ok image)
    (himage' : Artifact.parse s' = .ok image')
    (hplain : (Json.object (optional.getD [])).Plain)
    (hkeys : (Json.object (optional.getD [])).UniqueKeys)
    (hplain' : (Json.object (optional'.getD [])).Plain)
    (hkeys' : (Json.object (optional'.getD [])).UniqueKeys) :
    ∃ bytes bytes', (ofArtifact image (optional.getD [])).toBytes = .ok bytes ∧
      (ofArtifact image' (optional'.getD [])).toBytes = .ok bytes' ∧
      (bytes = bytes' ↔ image = image' ∧
        Json.Rearranged (.object (optional.getD [])) (.object (optional'.getD []))) := by
  have hparsed := Artifact.parsed_of_parse himage
  have hparsed' := Artifact.parsed_of_parse himage'
  have hjson := plain_toJson (p := ofArtifact image (optional.getD [])) hparsed.clean_repository
    hparsed.clean_digest hplain
  have hjson' := plain_toJson (p := ofArtifact image' (optional'.getD []))
    hparsed'.clean_repository hparsed'.clean_digest hplain'
  obtain ⟨bytes, hbytes⟩ := hjson.canonical_eq_ok
  obtain ⟨bytes', hbytes'⟩ := hjson'.canonical_eq_ok
  have hsame := hjson.canonical_eq_canonical_iff (uniqueKeys_toJson hkeys) hjson'
    (uniqueKeys_toJson hkeys')
  rw [hbytes, hbytes', Except.ok.injEq, rearranged_toJson_iff] at hsame
  exact ⟨bytes, bytes', hbytes, hbytes',
    hsame.trans (and_congr_left' (hparsed.names_eq_iff hparsed'))⟩

/-- Metadata that names another image does not make the bytes those of that image. -/
theorem bytes_identify_image_mirror :
    let digest : Text := ("sha256:" : Text) ++ List.replicate 64 ('0' : CodePoint)
    let image : Artifact := ⟨⟨"r.io", "a"⟩, digest⟩
    let mirror : Artifact := ⟨⟨"m.io", "a"⟩, digest⟩
    let claimed : Json.Members := [("docker-reference", .text "r.io/a")]
    Artifact.parse ("r.io/a@" ++ digest) = .ok image ∧
      Artifact.parse ("m.io/a@" ++ digest) = .ok mirror ∧
      (Json.object claimed).Plain ∧ (Json.object claimed).UniqueKeys ∧
      ∃ bytes bytes', (ofArtifact image).toBytes = .ok bytes ∧
        (ofArtifact mirror claimed).toBytes = .ok bytes' ∧ bytes ≠ bytes' := by
  intro digest image mirror claimed
  have himage : Artifact.parse ("r.io/a@" ++ digest) = .ok image := by decide +kernel
  have hmirror : Artifact.parse ("m.io/a@" ++ digest) = .ok mirror := by decide +kernel
  have hplain : (Json.object claimed).Plain :=
    .object (List.forall_mem_singleton.2 (by decide))
      (List.forall_mem_singleton.2 (.text (by decide)))
  have hkeys : (Json.object claimed).UniqueKeys :=
    .object (List.nodup_singleton _) (List.forall_mem_singleton.2 (.text _))
  refine ⟨himage, hmirror, hplain, hkeys, ?_⟩
  obtain ⟨bytes, bytes', hbytes, hbytes', hiff⟩ := @bytes_identify_image _ _ _ _ none (some claimed)
    himage hmirror (.object (List.forall_mem_nil _) (List.forall_mem_nil _))
    (.object List.nodup_nil (List.forall_mem_nil _)) hplain hkeys
  refine ⟨bytes, bytes', hbytes, hbytes', fun heq => ?_⟩
  have hhost : ("r.io" : Text) ≠ "m.io" := by decide
  exact hhost (congrArg (fun a => a.repository.registry) (hiff.1 heq).1)

end SimplePayload
end Signet
