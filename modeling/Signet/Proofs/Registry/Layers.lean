import Mathlib
import Signet.Proofs.Json.Keys
import Signet.Proofs.Registry.Reading

/-!
# Layers of tag images

The layers of a tag image are read exactly if the manifest under the tag describes each of
them and their contents are given out. In a registry that has grown, the layers under an
unchanged tag are the same up to the order of the keys of their annotations, and so are the
layers of an image that was written.

## Main definitions

* `Layer.Matches` — the same type, digest and annotations in any order.
* `Registry.Loads` — an item of a manifest describes a layer whose content is given out.
* `Registry.Image` — the layers that are read under a tag.
-/
namespace Signet

/-! ## Layers that match -/

namespace Layer

/-- The same type, the same digest and the same annotations in any order. -/
structure Matches (l l' : Layer) : Prop where
  mediaType : l'.mediaType = l.mediaType
  digest : l'.digest = l.digest
  annotations : Json.sortKeys l'.annotations = Json.sortKeys l.annotations

/-- A layer that is read back as it was written: it has a type, and no key of its annotations
occurs twice. -/
structure Sound (l : Layer) : Prop where
  mediaType : l.mediaType ≠ []
  annotations : Assoc.Distinct l.annotations

theorem Matches.refl (l : Layer) : Matches l l := ⟨rfl, rfl, rfl⟩

theorem Matches.trans {l l' l'' : Layer} (h : Matches l l') (h' : Matches l' l'') :
    Matches l l'' :=
  ⟨h'.mediaType.trans h.mediaType, h'.digest.trans h.digest, h'.annotations.trans h.annotations⟩

theorem Matches.symm {l l' : Layer} (h : Matches l l') : Matches l' l :=
  ⟨h.mediaType.symm, h.digest.symm, h.annotations.symm⟩

/-- The same layers in the same order. -/
abbrev AllMatch (layers layers' : List Layer) : Prop := List.Forall₂ Matches layers layers'

theorem AllMatch.refl (layers : List Layer) : AllMatch layers layers :=
  List.forall₂_same.2 fun l _ => .refl l

theorem AllMatch.trans {a b c : List Layer} (h : AllMatch a b) (h' : AllMatch b c) :
    AllMatch a c := by
  induction h generalizing c with
  | nil => exact h'
  | cons hl _ ih =>
    cases h' with
    | cons hl' hrest' => exact .cons (hl.trans hl') (ih hrest')

/-- Matching layers are alike to the same layers. -/
theorem Matches.alike {l l' : Layer} (h : Matches l l') (other : Layer) :
    l'.alike other = l.alike other := by
  simp only [Layer.alike, Annotations.same, h.digest, h.annotations]

theorem AllMatch.any_alike {layers layers' : List Layer} (h : AllMatch layers layers')
    (other : Layer) :
    (layers'.any fun l => l.alike other) = layers.any fun l => l.alike other := by
  induction h with
  | nil => rfl
  | cons hl _ ih => rw [List.any_cons, List.any_cons, hl.alike, ih]

/-- A layer is added to matching layers in the same way. -/
theorem AllMatch.appendTo {layers layers' : List Layer} (h : AllMatch layers layers')
    (l : Layer) : AllMatch (l.appendTo layers) (l.appendTo layers') := by
  rw [Layer.appendTo, Layer.appendTo, h.any_alike]
  split
  · exact h
  · exact List.rel_append h (.cons (.refl l) .nil)

theorem Sound.appendTo {l : Layer} (h : l.Sound) {layers : List Layer}
    (hlayers : ∀ other ∈ layers, other.Sound) : ∀ other ∈ l.appendTo layers, other.Sound := by
  intro other hother
  rw [Layer.appendTo] at hother
  split at hother
  · exact hlayers other hother
  · rcases List.mem_append.1 hother with hother | hother
    · exact hlayers other hother
    · rwa [List.mem_singleton.1 hother]

theorem mem_appendTo {l other : Layer} {layers : List Layer} (h : other ∈ layers) :
    other ∈ l.appendTo layers := by
  rw [Layer.appendTo]
  split
  · exact h
  · exact List.mem_append_left _ h

/-- Among the layers is one that is alike to the one that was added. -/
theorem any_alike_appendTo (l : Layer) (layers : List Layer) :
    ((l.appendTo layers).any fun other => other.alike l) = true := by
  rw [Layer.appendTo]
  split
  · assumption
  · simp [Layer.alike, Annotations.same]

end Layer

namespace Registry

variable {r r' : Registry} {o : RemoteOptions} {repository : Repository} {tag : Text}

/-! ## Layers that are read -/

/-- An item of a manifest describes a layer, and the registry gives out its content. -/
inductive Loads (r : Registry) (o : RemoteOptions) (repository : Repository) :
    Json → Layer → Prop where
  | intro {members : Json.Members} {mediaType digest : Text} {content : Bytes}
    (hmediaType : Remote.layerText? "mediaType" members = some mediaType)
    (hdigest : Remote.layerText? "digest" members = some digest)
    (hcontent : Remote.readBlob repository digest
      (replyTo r (Remote.blobRequest o .get repository digest)) = .ok content) :
    Loads r o repository (.object members)
      { mediaType, content, annotations := Remote.layerAnnotations members }

theorem outcome_loadLayer_eq_ok_iff {v : Json} {l : Layer} :
    outcome r (Remote.loadLayer o repository tag v) = .ok l ↔ Loads r o repository v l := by
  constructor
  · intro h
    rw [Remote.loadLayer] at h
    split at h
    · cases h
    rename_i members hmembers
    split at h
    · rename_i mediaType digest hmediaType hdigest
      rw [outcome_bind (Remote.sends_getBlob digest), Remote.getBlob, outcome_ask] at h
      cases hcontent : Remote.readBlob repository digest
          (replyTo r (Remote.blobRequest o .get repository digest)) with
      | error e =>
        rw [hcontent] at h
        cases h
      | ok content =>
        rw [hcontent] at h
        cases h
        rw [Json.members?_eq_some_iff.1 hmembers]
        exact .intro hmediaType hdigest hcontent
    · cases h
  · rintro ⟨hmediaType, hdigest, hcontent⟩
    rw [Remote.loadLayer]
    simp only [Json.members?, hmediaType, hdigest]
    rw [outcome_bind (Remote.sends_getBlob _), Remote.getBlob, outcome_ask, hcontent]
    rfl

theorem outcome_loadEach_eq_ok_iff {items : List Json} {layers : List Layer} :
    outcome r (Remote.loadEach o repository tag items) = .ok layers ↔
      List.Forall₂ (Loads r o repository) items layers := by
  induction items generalizing layers with
  | nil => simp [Remote.loadEach, eq_comm]
  | cons v rest ih =>
    rw [Remote.loadEach, outcome_bind_eq_ok_iff (Remote.sends_loadLayer tag v),
      List.forall₂_cons_left_iff]
    simp only [outcome_bind_eq_ok_iff (Remote.sends_loadEach tag rest), outcome_loadLayer_eq_ok_iff,
      ih, outcome_pure, Except.ok.injEq]
    constructor
    · rintro ⟨layer, hlayer, others, hothers, rfl⟩
      exact ⟨layer, others, hlayer, hothers, rfl⟩
    · rintro ⟨layer, others, hlayer, hothers, rfl⟩
      exact ⟨layer, hlayer, others, hothers, rfl⟩

/-- The layers that are read from the manifest under a tag. -/
inductive Image (r : Registry) (o : RemoteOptions) (repository : Repository) (tag : Text) :
    List Layer → Prop where
  /-- There is no such tag. -/
  | missing (h : Assoc.lookup (keyOf repository tag) r.manifests = none) :
    Image r o repository tag []
  /-- The manifest lists items, and each of them gives a layer. -/
  | listed {m : StoredManifest} {members : Json.Members} {items : List Json}
    {layers : List Layer} (h : Assoc.lookup (keyOf repository tag) r.manifests = some m)
    (hread : Json.readBytes m.content = .ok (.object members))
    (hitems : (members.get? "layers").bind Json.items? = some items)
    (hlayers : List.Forall₂ (Loads r o repository) items layers) :
    Image r o repository tag layers

theorem outcome_getManifest (h : repository.Parsed) (hwhole : Remote.Whole tag) :
    outcome r (Remote.getManifest o repository tag) =
      Remote.readManifest repository tag
        (RawResponse.readUtf8 (match Assoc.lookup (keyOf repository tag) r.manifests with
          | some m => showManifest m
          | none => answer 404)) := by
  rw [Remote.getManifest, outcome_ask, replyTo_manifest h hwhole (by decide)]
  rfl

theorem outcome_tagManifest? (h : repository.Parsed) (hwhole : Remote.Whole tag) :
    outcome r (Remote.tagManifest? o repository tag) =
      match Assoc.lookup (keyOf repository tag) r.manifests with
      | none => .ok none
      | some m =>
        (Remote.readManifest repository tag (showManifest m).readUtf8).map fun x => some x.1 := by
  rw [Remote.tagManifest?, outcome_recover, outcome_bind (Remote.sends_getManifest tag),
    outcome_getManifest h hwhole]
  cases Assoc.lookup (keyOf repository tag) r.manifests with
  | none => rfl
  | some m =>
    dsimp only
    cases hread : Remote.readManifest repository tag (showManifest m).readUtf8 with
    | ok x => rfl
    | error e =>
      dsimp only [Bind.bind, Except.bind, Except.map]
      split
      · exact absurd hread (Remote.readManifest_ne_missing rfl)
      · rfl

/-- A manifest that is kept is read if it is a JSON object. -/
theorem readManifest_showManifest_eq_ok_iff {m : StoredManifest} {members : Json.Members} :
    (∃ d, Remote.readManifest repository tag (showManifest m).readUtf8 = .ok (members, d)) ↔
      Json.readBytes m.content = .ok (.object members) := by
  simp only [Remote.readManifest_eq_ok_iff (p := (showManifest m).readUtf8) rfl, exists_and_left,
    exists_eq, and_true]
  rfl

/-- The layers of a tag image are read exactly if its manifest lists them. -/
theorem outcome_loadLayers_eq_ok_iff (h : repository.Parsed) (hwhole : Remote.Whole tag)
    {layers : List Layer} :
    outcome r (Remote.loadLayers o repository tag) = .ok layers ↔
      Image r o repository tag layers := by
  rw [Remote.loadLayers, outcome_bind_eq_ok_iff (Remote.sends_tagManifest? tag),
    outcome_tagManifest? h hwhole]
  constructor
  · rintro ⟨manifest, hmanifest, hlayers⟩
    cases hm : Assoc.lookup (keyOf repository tag) r.manifests with
    | none =>
      rw [hm] at hmanifest
      cases hmanifest
      cases hlayers
      exact .missing hm
    | some m =>
      rw [hm] at hmanifest
      dsimp only at hmanifest
      cases hread : Remote.readManifest repository tag (showManifest m).readUtf8 with
      | error e =>
        rw [hread] at hmanifest
        cases hmanifest
      | ok x =>
        rw [hread] at hmanifest
        cases hmanifest
        dsimp only at hlayers
        split at hlayers
        · cases hlayers
        · rename_i items hitems
          exact .listed hm (readManifest_showManifest_eq_ok_iff.1 ⟨x.2, hread⟩) hitems
            (outcome_loadEach_eq_ok_iff.1 hlayers)
  · intro himage
    cases himage with
    | missing hm =>
      rw [hm]
      exact ⟨none, rfl, rfl⟩
    | @listed m members items _ hm hread hitems hlayers =>
      obtain ⟨d, hd⟩ := readManifest_showManifest_eq_ok_iff.2 hread
      refine ⟨some members, ?_, ?_⟩
      · rw [hm]
        dsimp only
        rw [hd]
        rfl
      · dsimp only
        rw [hitems]
        exact outcome_loadEach_eq_ok_iff.2 hlayers

/-! ## Layers that are not read -/

theorem outcome_loadLayer_ne_missing {v : Json} {repository' : Repository} {reference : Text} :
    outcome r (Remote.loadLayer o repository tag v) ≠
      .error (.registry (.missing repository' reference)) := by
  rw [Remote.loadLayer]
  split
  · rintro ⟨⟩
  split
  · rename_i members mediaType digest _ _
    rw [ne_eq, outcome_bind_eq_error_iff (Remote.sends_getBlob digest), Remote.getBlob, outcome_ask]
    rintro (h | ⟨content, -, h⟩)
    · rw [Remote.readBlob] at h
      split_ifs at h <;> simp at h
    · cases h
  · rintro ⟨⟩

theorem outcome_loadEach_ne_missing {items : List Json} {repository' : Repository}
    {reference : Text} :
    outcome r (Remote.loadEach o repository tag items) ≠
      .error (.registry (.missing repository' reference)) := by
  induction items with
  | nil => rintro ⟨⟩
  | cons v rest ih =>
    rw [Remote.loadEach, ne_eq, outcome_bind_eq_error_iff (Remote.sends_loadLayer tag v)]
    simp only [outcome_bind_eq_error_iff (Remote.sends_loadEach tag rest), outcome_pure]
    rintro (h | ⟨layer, -, h | ⟨others, -, h⟩⟩)
    · exact outcome_loadLayer_ne_missing h
    · exact ih h
    · cases h

/-- A tag that is not there has no layers, so reading the layers never misses a manifest. -/
theorem outcome_loadLayers_ne_missing (h : repository.Parsed) (hwhole : Remote.Whole tag)
    {repository' : Repository} {reference : Text} :
    outcome r (Remote.loadLayers o repository tag) ≠
      .error (.registry (.missing repository' reference)) := by
  rw [Remote.loadLayers, ne_eq, outcome_bind_eq_error_iff (Remote.sends_tagManifest? tag),
    outcome_tagManifest? h hwhole]
  rintro (hmanifest | ⟨manifest, -, hlayers⟩)
  · split at hmanifest
    · cases hmanifest
    · rename_i m _
      cases hread : Remote.readManifest repository tag (showManifest m).readUtf8 with
      | ok x =>
        rw [hread] at hmanifest
        cases hmanifest
      | error e =>
        rw [hread] at hmanifest
        cases hmanifest
        exact Remote.readManifest_ne_missing rfl hread
  · split at hlayers
    · cases hlayers
    · split at hlayers
      · cases hlayers
      · exact outcome_loadEach_ne_missing hlayers

/-! ## Layers that were read -/

/-- A layer that is read has a type, and no key of its annotations occurs twice. -/
theorem Loads.sound {v : Json} {l : Layer} (h : Loads r o repository v l) (hkeys : v.UniqueKeys) :
    l.Sound := by
  obtain ⟨hmediaType, -, -⟩ := h
  refine ⟨?_, ?_⟩
  · rintro rfl
    simp [Remote.layerText?] at hmediaType
  · rw [Remote.layerAnnotations]
    split
    · rename_i annotations hannotations
      obtain ⟨w, hw, hobject⟩ := Option.bind_eq_some_iff.1 hannotations
      rw [Json.members?_eq_some_iff.1 hobject] at hw
      exact Json.distinct_map (hkeys.of_get? hw).distinct Json.display
    · exact Assoc.distinct_nil

theorem Image.sound {layers : List Layer} (h : Image r o repository tag layers) :
    ∀ l ∈ layers, l.Sound := by
  cases h with
  | missing hm => simp
  | @listed m members items _ hm hread hitems hlayers =>
    obtain ⟨w, hw, harray⟩ := Option.bind_eq_some_iff.1 hitems
    rw [Json.items?_eq_some_iff.1 harray] at hw
    have hkeys : ∀ v ∈ items, v.UniqueKeys :=
      fun v hv => ((Json.uniqueKeys_readBytes hread).of_get? hw).of_mem hv
    clear hitems hw harray
    induction hlayers with
    | nil => simp
    | @cons v l items' layers' hl _ ih =>
      intro l' hl'
      rcases List.mem_cons.1 hl' with rfl | hl'
      · exact hl.sound (hkeys v (by simp))
      · exact ih (fun w hw => hkeys w (by simp [hw])) l' hl'

/-- What is read does not depend on the options of the reader. -/
theorem Image.withOptions (h : repository.Parsed) {layers : List Layer}
    (himage : Image r o repository tag layers) (o' : RemoteOptions) :
    Image r o' repository tag layers := by
  cases himage with
  | missing hm => exact .missing hm
  | listed hm hread hitems hlayers =>
    refine .listed hm hread hitems (hlayers.imp ?_)
    intro v l hl
    obtain ⟨hmediaType, hdigest, hcontent⟩ := hl
    rw [replyTo_blob h] at hcontent
    refine .intro hmediaType hdigest ?_
    rwa [replyTo_blob h]

/-- The registry decides what is read under a tag. -/
theorem Image.unique (h : repository.Parsed) (hwhole : Remote.Whole tag) {o' : RemoteOptions}
    {layers layers' : List Layer} (himage : Image r o repository tag layers)
    (himage' : Image r o' repository tag layers') : layers = layers' := by
  have hlayers := (outcome_loadLayers_eq_ok_iff h hwhole).2 (himage.withOptions h o')
  rw [(outcome_loadLayers_eq_ok_iff h hwhole).2 himage'] at hlayers
  exact (Except.ok.inj hlayers).symm

/-- The digests of the layers that the manifest under a tag lists. -/
def tagDigests (r : Registry) (repository : Repository) (tag : Text) : List Text :=
  match (Assoc.lookup (keyOf repository tag) r.manifests).map fun m => Json.readBytes m.content with
  | some (.ok (.object members)) =>
    (((Json.Members.get? members "layers").bind Json.items?).getD []).filterMap fun v =>
      v.members?.bind (Remote.layerText? "digest")
  | _ => []

/-- No layer of the tag image is looked up among the manifests. -/
def Confined (r : Registry) (repository : Repository) (tag : Text) : Prop :=
  ∀ digest ∈ r.tagDigests repository tag, ¬ NamesManifest repository digest

theorem tagDigests_of_read {m : StoredManifest} {members : Json.Members} {items : List Json}
    (h : Assoc.lookup (keyOf repository tag) r.manifests = some m)
    (hread : Json.readBytes m.content = .ok (.object members))
    (hitems : (members.get? "layers").bind Json.items? = some items) :
    r.tagDigests repository tag =
      items.filterMap fun v => v.members?.bind (Remote.layerText? "digest") := by
  simp only [tagDigests, h, Option.map_some, hread, hitems, Option.getD_some]

/-- In a registry that has grown, a layer is given out that matches. -/
theorem Loads.grow {only : Key → Prop} (hg : Grows only r r') (h : repository.Parsed)
    (o' : RemoteOptions) {v : Json} {l : Layer} (hl : Loads r o repository v l)
    (hnames : ∀ digest, v.members?.bind (Remote.layerText? "digest") = some digest →
      ¬ NamesManifest repository digest) :
    ∃ l', Loads r' o' repository v l' ∧ l.Matches l' := by
  obtain ⟨hmediaType, hdigest, hcontent⟩ := hl
  obtain ⟨content', hcontent', hsame⟩ := readBlob_of_grows hg h o' (hnames _ hdigest) hcontent
  exact ⟨_, .intro hmediaType hdigest hcontent', rfl, hsame, rfl⟩

/-- In a registry that has grown, the layers under an unchanged tag match. -/
theorem Image.grow {only : Key → Prop} (hg : Grows only r r') (h : repository.Parsed)
    (o' : RemoteOptions) {layers : List Layer} (himage : Image r o repository tag layers)
    (hconfined : r.Confined repository tag)
    (hsame : Assoc.lookup (keyOf repository tag) r'.manifests =
      Assoc.lookup (keyOf repository tag) r.manifests) :
    ∃ layers', Image r' o' repository tag layers' ∧ Layer.AllMatch layers layers' := by
  cases himage with
  | missing hm => exact ⟨[], .missing (hsame.trans hm), .nil⟩
  | @listed m members items _ hm hread hitems hlayers =>
    rw [Confined, tagDigests_of_read hm hread hitems] at hconfined
    have hgrow : ∃ layers', List.Forall₂ (Loads r' o' repository) items layers' ∧
        Layer.AllMatch layers layers' := by
      clear hitems
      induction hlayers with
      | nil => exact ⟨[], .nil, .nil⟩
      | @cons v l items' layers' hl _ ih =>
        obtain ⟨l', hl', hmatch⟩ := hl.grow hg h o'
          fun digest hdigest => hconfined digest (List.mem_filterMap.2 ⟨v, by simp, hdigest⟩)
        obtain ⟨others, hothers, hmatches⟩ := ih fun digest hdigest => hconfined digest (by
          obtain ⟨w, hw, hdigest⟩ := List.mem_filterMap.1 hdigest
          exact List.mem_filterMap.2 ⟨w, by simp [hw], hdigest⟩)
        exact ⟨l' :: others, .cons hl' hothers, .cons hmatch hmatches⟩
    obtain ⟨layers', hlayers', hmatch⟩ := hgrow
    exact ⟨layers', .listed (hsame.trans hm) hread hitems hlayers', hmatch⟩

theorem Confined.congr (h : r.Confined repository tag)
    (hsame : Assoc.lookup (keyOf repository tag) r'.manifests =
      Assoc.lookup (keyOf repository tag) r.manifests) : r'.Confined repository tag := by
  rw [Confined, tagDigests, hsame]
  exact h

/-! ## Layers that were written -/

/-- A blob that is there is given out. -/
theorem replyTo_blob_of_whole (h : repository.Parsed) {digest : Text}
    (hwhole : Remote.Whole digest) {content : Bytes}
    (hblob : Assoc.lookup (keyOf repository digest) r.blobs = some content) :
    replyTo r (Remote.blobRequest o .get repository digest) =
      (RawResponse.mk 200 [] content).readUtf8 := by
  obtain ⟨t, htarget, -, hquery⟩ := Remote.query?_blob (o := o) h hwhole
  rw [Remote.target?_url h] at htarget
  cases htarget
  have hkey : (⟨repository.registry ++ "/" ++ repository.path, digest⟩ : Key) =
      keyOf repository digest := rfl
  rw [replyTo_blob h, hquery]
  dsimp only
  rw [hkey, hblob]

/-- A descriptor is written as an object. -/
theorem exists_normal_descriptor (d : Descriptor) :
    ∃ members : Json.Members, Json.normal d.toJson = .object members ∧
      ∀ key, members.get? key = (Json.normal d.toJson).member? key := by
  have hobject := Json.normal_object_of_distinct d.distinct_members
  rw [Descriptor.toJson_eq, hobject]
  exact ⟨_, rfl, fun _ => rfl⟩

/-- The annotations of a sound layer are read back in the order of their keys. -/
theorem layerAnnotations_of_descriptor {l : Layer} (hl : l.Sound) {members : Json.Members}
    (hmember : members.get? "annotations" =
      (Json.normal l.descriptor.toJson).member? "annotations") :
    Remote.layerAnnotations members = Json.sortKeys l.annotations := by
  have hannotations : l.descriptor.annotations = l.annotations := rfl
  rw [Remote.layerAnnotations, hmember, Descriptor.member?_annotations rfl, hannotations]
  by_cases hempty : l.annotations = []
  · rw [if_pos hempty, hempty]
    rfl
  · rw [if_neg hempty, Annotations.normal_toJson hl.annotations]
    dsimp only [Option.bind_some, Json.members?]
    rw [List.map_map]
    exact List.map_id _

/-- The layer that is read back for the descriptor of a sound layer matches it. -/
theorem loads_normal_descriptor (hr : r.Hashed) (h : repository.Parsed) {l : Layer} (hl : l.Sound)
    {content : Bytes} (hblob : Assoc.lookup (keyOf repository l.digest) r.blobs = some content)
    (o : RemoteOptions) :
    ∃ l', Loads r o repository (Json.normal l.descriptor.toJson) l' ∧ l.Matches l' ∧
      l'.content = content := by
  obtain ⟨members, hmembers, hmember⟩ := exists_normal_descriptor l.descriptor
  have hdigest : sha256Digest content = l.digest :=
    hr _ _ hblob (startsWith_sha256Digest l.content)
  have hannotations := layerAnnotations_of_descriptor hl (hmember _)
  have hmediaType : Remote.layerText? "mediaType" members = some l.mediaType := by
    rw [Remote.layerText?, hmember, Descriptor.member?_mediaType]
    simpa [Json.text?, Layer.descriptor] using hl.mediaType
  have hnamed : Remote.layerText? "digest" members = some l.digest := by
    rw [Remote.layerText?, hmember, Descriptor.member?_digest]
    have hne : l.digest ≠ [] := sha256Digest_ne_nil l.content
    simpa [Json.text?, Layer.descriptor] using hne
  have hcontent : Remote.readBlob repository l.digest
      (replyTo r (Remote.blobRequest o .get repository l.digest)) = .ok content := by
    have hwhole : Remote.Whole l.digest := Remote.whole_sha256Digest l.content
    rw [replyTo_blob_of_whole h hwhole hblob, Remote.readBlob_eq_ok_iff]
    exact ⟨rfl, fun _ => hdigest, rfl⟩
  rw [hmembers]
  refine ⟨_, .intro hmediaType hnamed hcontent, ⟨rfl, hdigest, ?_⟩, rfl⟩
  dsimp only
  rw [hannotations, Json.sortKeys_sortKeys]

/-- The manifest of an image that is kept lists the descriptors of its layers. -/
theorem Keeps.listed {layers : List Layer} {placement : Placement}
    (hkeeps : r.Keeps repository tag layers placement) :
    ∃ m, ∃ members : Json.Members, Assoc.lookup (keyOf repository tag) r.manifests = some m ∧
      Json.readBytes m.content = .ok (.object members) ∧
      (members.get? "layers").bind Json.items? =
        some (layers.map fun l => Json.normal l.descriptor.toJson) := by
  obtain ⟨⟨config, bytes, hcanonical, hlookup⟩, -⟩ := hkeeps
  have hread := readBytes_manifest hcanonical
  have hlayers := @member?_layers placement config layers
  have hobject := Json.normal_object_of_distinct (@distinct_manifestMembers placement config layers)
  rw [imageManifest_eq, hobject] at hread hlayers
  refine ⟨_, _, hlookup, hread, ?_⟩
  rw [Json.Members.get?, ← Json.member?, hlayers]
  rfl

/-- The layers of an image that is kept are read back from its blobs. -/
theorem Keeps.image_of_blobs (hr : r.Hashed) (h : repository.Parsed) {layers : List Layer}
    {placement : Placement} (hkeeps : r.Keeps repository tag layers placement)
    (hsound : ∀ l ∈ layers, l.Sound) (o : RemoteOptions) :
    ∃ layers', Image r o repository tag layers' ∧ Layer.AllMatch layers layers' ∧
      ∀ l ∈ layers', ∃ key, Assoc.lookup key r.blobs = some l.content := by
  obtain ⟨m, members, hlookup, hread, hitems⟩ := hkeeps.listed
  have hloads : ∃ layers', List.Forall₂ (Loads r o repository)
      (layers.map fun l => Json.normal l.descriptor.toJson) layers' ∧
        Layer.AllMatch layers layers' ∧
        ∀ l ∈ layers', ∃ key, Assoc.lookup key r.blobs = some l.content := by
    have hblob := hkeeps.blob
    clear hkeeps hitems
    induction layers with
    | nil => exact ⟨[], .nil, .nil, by simp⟩
    | cons l rest ih =>
      obtain ⟨content, hcontent⟩ := hblob l (by simp)
      obtain ⟨l', hl', hmatch, hsame⟩ :=
        loads_normal_descriptor hr h (hsound l (by simp)) hcontent o
      obtain ⟨others, hothers, hmatches, hblobs⟩ := ih (fun l hl => hsound l (by simp [hl]))
        fun l hl => hblob l (by simp [hl])
      refine ⟨l' :: others, .cons hl' hothers, .cons hmatch hmatches, ?_⟩
      intro other hother
      rcases List.mem_cons.1 hother with rfl | hother
      · exact ⟨_, hsame ▸ hcontent⟩
      · exact hblobs other hother
  obtain ⟨layers', hlayers', hmatch, hblobs⟩ := hloads
  exact ⟨layers', .listed hlookup hread hitems hlayers', hmatch, hblobs⟩

theorem Keeps.image (hr : r.Hashed) (h : repository.Parsed) {layers : List Layer}
    {placement : Placement} (hkeeps : r.Keeps repository tag layers placement)
    (hsound : ∀ l ∈ layers, l.Sound) (o : RemoteOptions) :
    ∃ layers', Image r o repository tag layers' ∧ Layer.AllMatch layers layers' :=
  have ⟨layers', himage, hmatch, _⟩ := hkeeps.image_of_blobs hr h hsound o
  ⟨layers', himage, hmatch⟩

theorem slash_not_mem_sha256Digest (content : Bytes) : ('/' : CodePoint) ∉ sha256Digest content :=
  fun hc => (Remote.whole_sha256Digest content _ hc).1 rfl

/-- No layer of an image that is kept is looked up among the manifests. -/
theorem Keeps.confined {layers : List Layer} {placement : Placement}
    (hkeeps : r.Keeps repository tag layers placement) : r.Confined repository tag := by
  obtain ⟨m, members, hlookup, hread, hitems⟩ := hkeeps.listed
  rw [Confined, tagDigests_of_read hlookup hread hitems]
  intro digest hdigest
  obtain ⟨v, hv, hnamed⟩ := List.mem_filterMap.1 hdigest
  obtain ⟨l, -, rfl⟩ := List.mem_map.1 hv
  obtain ⟨layer, hlayer, hmember⟩ := exists_normal_descriptor l.descriptor
  rw [hlayer, Json.members?, Option.bind_some, Remote.layerText?, hmember,
    Descriptor.member?_digest] at hnamed
  obtain ⟨hsame, -⟩ := Option.filter_eq_some_iff.1 hnamed
  cases hsame
  exact not_namesManifest (slash_not_mem_sha256Digest l.content)

end Registry
end Signet
