import Mathlib
import Signet.Proofs.Json.Plain
import Signet.Proofs.Json.RoundTrip
import Signet.Remote.Image

/-!
# Manifests read back

The manifest of an image is pushed in its canonical form, and whoever reads the bytes finds
the descriptors of the configuration and of the layers in it. The configuration itself can
always be written.
-/
namespace Signet

open Json (FloatFree normal)

/-! ## Descriptors -/

namespace Annotations

variable {annotations : Annotations}

theorem floatFree_toJson (annotations : Annotations) : annotations.toJson.FloatFree := by
  apply FloatFree.object
  intro p hp
  obtain ⟨q, -, rfl⟩ := List.mem_map.1 hp
  exact .text _

theorem plain_toJson (h : ∀ p ∈ annotations, p.1.Clean ∧ p.2.Clean) :
    annotations.toJson.Plain := by
  refine .object ?_ ?_
  · intro p hp
    obtain ⟨q, hq, rfl⟩ := List.mem_map.1 hp
    exact (h q hq).1
  · intro p hp
    obtain ⟨q, hq, rfl⟩ := List.mem_map.1 hp
    exact .text (h q hq).2

/-- With distinct keys the annotations are read back in the order of their keys. -/
theorem normal_toJson (h : Assoc.Distinct annotations) :
    normal annotations.toJson =
      .object ((Json.sortKeys annotations).map fun p => (p.1, .text p.2)) := by
  have hd := Json.distinct_map h Json.text
  rw [toJson, Json.normal_object_of_distinct hd, Json.sortKeys_map, List.map_map]
  simp [Function.comp_def]

end Annotations

namespace Descriptor

/-- The members of the object that a descriptor is written as. -/
def members (d : Descriptor) : Json.Members :=
  let artifactType : Json.Members :=
    match d.artifactType with
    | some t => if t.isEmpty then [] else [("artifactType", .text t)]
    | none => []
  let annotations : Json.Members :=
    if d.annotations.isEmpty then [] else [("annotations", d.annotations.toJson)]
  [(("mediaType" : Text), Json.text d.mediaType), ("digest", .text d.digest),
    ("size", .int d.size)] ++ artifactType ++ annotations

theorem toJson_eq (d : Descriptor) : d.toJson = .object d.members := rfl

theorem distinct_members (d : Descriptor) : d.members.Distinct := by
  obtain ⟨mediaType, digest, size, annotations, artifactType⟩ := d
  rcases artifactType with _ | _ | ⟨c, t⟩
  · rcases annotations with _ | ⟨p, rest⟩
    · exact (by decide : [("mediaType" : Text), "digest", "size"].Nodup)
    · exact (by decide : [("mediaType" : Text), "digest", "size", "annotations"].Nodup)
  · rcases annotations with _ | ⟨p, rest⟩
    · exact (by decide : [("mediaType" : Text), "digest", "size"].Nodup)
    · exact (by decide : [("mediaType" : Text), "digest", "size", "annotations"].Nodup)
  · rcases annotations with _ | ⟨p, rest⟩
    · exact (by decide : [("mediaType" : Text), "digest", "size", "artifactType"].Nodup)
    · exact (by decide :
        [("mediaType" : Text), "digest", "size", "artifactType", "annotations"].Nodup)

theorem floatFree_toJson (d : Descriptor) : d.toJson.FloatFree := by
  apply FloatFree.object
  intro p hp
  rcases List.mem_append.1 hp with hp | hp
  · rcases List.mem_append.1 hp with hp | hp
    · simp only [List.mem_cons, List.not_mem_nil, or_false] at hp
      rcases hp with rfl | rfl | rfl
      · exact .text _
      · exact .text _
      · exact .int _
    · split at hp
      · split_ifs at hp
        · cases hp
        · rw [List.mem_singleton] at hp
          subst hp
          exact .text _
      · cases hp
  · split_ifs at hp
    · cases hp
    · rw [List.mem_singleton] at hp
      subst hp
      exact Annotations.floatFree_toJson _

/-- A descriptor of content whose bytes can be counted is plain if its texts are. -/
theorem plain_toJson {d : Descriptor} (hmediaType : d.mediaType.Clean)
    (hdigest : d.digest.Clean) (hsize : d.size.natAbs < 2 ^ 63) (hnone : d.artifactType = none)
    (hannotations : ∀ p ∈ d.annotations, p.1.Clean ∧ p.2.Clean) : d.toJson.Plain := by
  have hmember : ∀ p ∈ d.members, Text.Clean p.1 ∧ p.2.Plain := by
    rw [members, hnone]
    simp only [List.append_nil, List.forall_mem_append, List.forall_mem_cons]
    refine ⟨⟨⟨by decide, .text hmediaType⟩, ⟨by decide, .text hdigest⟩,
      ⟨by decide, .int (Decimal.digitCount_le_of_lt hsize)⟩, by simp⟩, ?_⟩
    split
    · simp
    · simp only [List.forall_mem_singleton]
      exact ⟨by decide, Annotations.plain_toJson hannotations⟩
  rw [toJson_eq]
  exact .object (fun p hp => (hmember p hp).1) fun p hp => (hmember p hp).2

/-- A member that every descriptor has is found in what is read back. -/
theorem member?_normal_toJson (d : Descriptor) (key : Text) :
    (normal d.toJson).member? key = (d.members.get? key).map normal :=
  Json.member?_normal d.distinct_members key

@[simp] theorem member?_mediaType (d : Descriptor) :
    (normal d.toJson).member? "mediaType" = some (.text d.mediaType) := by
  rw [member?_normal_toJson, ← Json.normal_text]
  rfl

@[simp] theorem member?_digest (d : Descriptor) :
    (normal d.toJson).member? "digest" = some (.text d.digest) := by
  rw [member?_normal_toJson, ← Json.normal_text]
  rfl

@[simp] theorem member?_size (d : Descriptor) :
    (normal d.toJson).member? "size" = some (.int d.size) := by
  rw [member?_normal_toJson, ← Json.normal_int]
  rfl

/-- Annotations are left out only if there are none. -/
theorem member?_annotations {d : Descriptor} (h : d.artifactType = none) :
    (normal d.toJson).member? "annotations" =
      if d.annotations = [] then none else some (normal d.annotations.toJson) := by
  obtain ⟨mediaType, digest, size, annotations, artifactType⟩ := d
  subst h
  rw [member?_normal_toJson]
  rcases annotations with _ | ⟨p, rest⟩ <;> rfl

end Descriptor

/-! ## Configurations -/

theorem clean_sha256Digest (content : Bytes) : (sha256Digest content).Clean :=
  forall_mem_sha256Digest (by decide) (by decide) content

theorem Placement.plain_config (placement : Placement) (layers : List Layer) :
    (placement.config layers).Plain := by
  cases placement with
  | subject d artifactType annotations => exact .object (by simp) (by simp)
  | tag reference =>
    have hempty : Json.Plain (.text ("" : Text)) := .text (by decide)
    have hids : Json.Plain (.array (layers.map fun l => .text l.digest)) := by
      apply Json.Plain.array
      intro v hv
      obtain ⟨l, -, rfl⟩ := List.mem_map.1 hv
      exact .text (clean_sha256Digest _)
    have hrootfs : Json.Plain (.object
        [(("type" : Text), .text "layers"),
         ("diff_ids", .array (layers.map fun l => .text l.digest))]) := by
      refine .object (by simpa using ⟨by decide, by decide⟩) ?_
      simpa using ⟨.text (by decide), hids⟩
    refine .object (by simpa using ⟨by decide, by decide, by decide, by decide⟩) ?_
    simpa using ⟨hempty, .object (by simp) (by simp), hrootfs⟩

/-- The configuration of an image has a canonical form. -/
theorem Placement.canonical_config (placement : Placement) (layers : List Layer) :
    ∃ config, (placement.config layers).canonical = .ok config :=
  (placement.plain_config layers).canonical_eq_ok

/-! ## Manifests of images -/

/-- The members of the manifest of an image. -/
def manifestMembers (placement : Placement) (config : Bytes) (layers : List Layer) :
    Json.Members :=
  let descriptor : Descriptor :=
    { mediaType := placement.configType, digest := sha256Digest config, size := config.length }
  [(("schemaVersion" : Text), Json.int 2), ("mediaType", .text MediaType.imageManifest),
    ("config", descriptor.toJson),
    ("layers", .array (layers.map fun l => l.descriptor.toJson))] ++ placement.members

theorem imageManifest_eq (placement : Placement) (config : Bytes) (layers : List Layer) :
    imageManifest placement config layers = .object (manifestMembers placement config layers) := rfl

variable {placement : Placement} {config bytes : Bytes} {layers : List Layer}

theorem distinct_manifestMembers : (manifestMembers placement config layers).Distinct := by
  cases placement with
  | tag reference =>
    exact (by decide : [("schemaVersion" : Text), "mediaType", "config", "layers"].Nodup)
  | subject d artifactType annotations =>
    rcases annotations with _ | ⟨p, rest⟩
    · exact (by decide : [("schemaVersion" : Text), "mediaType", "config", "layers",
        "artifactType", "subject"].Nodup)
    · exact (by decide : [("schemaVersion" : Text), "mediaType", "config", "layers",
        "artifactType", "subject", "annotations"].Nodup)

theorem Placement.floatFree_members {p : Text × Json} (h : p ∈ placement.members) :
    p.2.FloatFree := by
  cases placement with
  | tag reference => cases h
  | subject d artifactType annotations =>
    rcases List.mem_append.1 h with h | h
    · simp only [List.mem_cons, List.not_mem_nil, or_false] at h
      rcases h with rfl | rfl
      · exact .text _
      · exact Descriptor.floatFree_toJson _
    · split_ifs at h
      · cases h
      · rw [List.mem_singleton] at h
        subst h
        exact Annotations.floatFree_toJson _

theorem floatFree_imageManifest : (imageManifest placement config layers).FloatFree := by
  apply FloatFree.object
  intro p hp
  rcases List.mem_append.1 hp with hp | hp
  · simp only [List.mem_cons, List.not_mem_nil, or_false] at hp
    rcases hp with rfl | rfl | rfl | rfl
    · exact .int _
    · exact .text _
    · exact Descriptor.floatFree_toJson _
    · apply FloatFree.array
      intro v hv
      obtain ⟨l, -, rfl⟩ := List.mem_map.1 hv
      exact Descriptor.floatFree_toJson _
  · exact Placement.floatFree_members hp

/-- The bytes of a manifest are read as its normal form. -/
theorem readBytes_manifest (h : (imageManifest placement config layers).canonical = .ok bytes) :
    Json.readBytes bytes = .ok (normal (imageManifest placement config layers)) :=
  Json.readBytes_canonical floatFree_imageManifest h

theorem member?_imageManifest (key : Text) :
    (normal (imageManifest placement config layers)).member? key =
      ((manifestMembers placement config layers).get? key).map normal := by
  rw [imageManifest_eq, Json.member?_normal distinct_manifestMembers]

theorem member?_config :
    (normal (imageManifest placement config layers)).member? "config" =
      some (normal (Descriptor.toJson
        { mediaType := placement.configType, digest := sha256Digest config,
          size := config.length })) := by
  rw [member?_imageManifest]
  rfl

theorem member?_layers :
    (normal (imageManifest placement config layers)).member? "layers" =
      some (.array (layers.map fun l => normal l.descriptor.toJson)) := by
  have hlayers : normal (.array (layers.map fun l => l.descriptor.toJson)) =
      .array (layers.map fun l => normal l.descriptor.toJson) := by
    rw [Json.normal_array, List.map_map]
    rfl
  rw [member?_imageManifest, ← hlayers]
  rfl

theorem member?_subject :
    (normal (imageManifest placement config layers)).member? "subject" =
      match placement with
      | .tag _ => none
      | .subject d _ _ => some (normal (Descriptor.toJson
          { mediaType := d.mediaType, digest := d.digest, size := d.size })) := by
  rw [member?_imageManifest]
  cases placement <;> rfl

end Signet
