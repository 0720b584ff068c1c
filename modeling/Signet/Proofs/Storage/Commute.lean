import Mathlib
import Signet.Proofs.Storage.Again

/-!
# Stores that do not disturb each other

Two stores in the oldest format, of different artifacts or of different kinds, extend different
tags. What one of them reads stays when the other one is done, so both prepare the same images
in either order, and writing two images comes to the same registry in either order. The
exception is a layer that is looked up among the manifests and found under the tag of the other
store.
-/
namespace Signet

namespace Registry

variable {r : Registry}

/-- Images are written under two tags in either order. -/
theorem agrees_withImage {repository repository' : Repository} {tag tag' : Text}
    {layers layers' : List Layer} {config config' manifest manifest' : Bytes}
    (htag : tag.startsWith "sha256:" = false) (htag' : tag'.startsWith "sha256:" = false)
    (hkeys : keyOf repository tag ≠ keyOf repository' tag')
    (hdiffer : DigestsDiffer
      ((r.withImage repository (.tag tag) layers config manifest).contents ++
        (r.withImage repository' (.tag tag') layers' config' manifest').contents)) :
    Agrees
      ((r.withImage repository (.tag tag) layers config manifest).withImage repository' (.tag tag')
        layers' config' manifest')
      ((r.withImage repository' (.tag tag') layers' config' manifest').withImage repository
        (.tag tag) layers config manifest) where
  blobs := by
    intro key
    rw [blobs_withImage, lookup_withBlobs, blobs_withImage, lookup_withBlobs, blobs_withImage,
      lookup_withBlobs, blobs_withImage, lookup_withBlobs, Option.or_assoc, Option.or_assoc]
    cases hkey : Assoc.lookup key r.blobs with
    | some content => rw [Option.some_or, Option.some_or]
    | none =>
      rw [Option.none_or, Option.none_or]
      cases hfirst : (config :: layers.map Layer.content).find? fun content =>
          keyOf repository (sha256Digest content) = key with
      | none => rw [Option.none_or, Option.or_none]
      | some content =>
        cases hsecond : (config' :: layers'.map Layer.content).find? fun content =>
            keyOf repository' (sha256Digest content) = key with
        | none => rw [Option.none_or, Option.or_none]
        | some content' =>
          -- Both images have a content for the key, so they have the same one.
          have hmem : content ∈
              (r.withImage repository (.tag tag) layers config manifest).contents := by
            have hblob : Assoc.lookup key
                (r.withImage repository (.tag tag) layers config manifest).blobs =
                  some content := by
              rw [blobs_withImage, lookup_withBlobs, hkey, hfirst, Option.none_or]
            exact mem_contents_of_blob hblob
          have hmem' : content' ∈
              (r.withImage repository' (.tag tag') layers' config' manifest').contents := by
            have hblob : Assoc.lookup key
                (r.withImage repository' (.tag tag') layers' config' manifest').blobs =
                  some content' := by
              rw [blobs_withImage, lookup_withBlobs, hkey, hsecond, Option.none_or]
            exact mem_contents_of_blob hblob
          have hfound := List.find?_some hfirst
          have hfound' := List.find?_some hsecond
          rw [decide_eq_true_eq] at hfound hfound'
          have hdigest : sha256Digest content = sha256Digest content' :=
            (Key.mk.inj (hfound.trans hfound'.symm)).2
          rw [hdiffer _ (List.mem_append_left _ hmem) _ (List.mem_append_right _ hmem') hdigest,
            Option.some_or]
  manifests := by
    intro key
    have hdigest {name : Text} {repository : Repository} (hname : name.startsWith "sha256:" = false)
        (repository' : Repository) (content : Bytes) :
        keyOf repository' (sha256Digest content) ≠ keyOf repository name := by
      intro heq
      rw [← (Key.mk.inj heq).2, startsWith_sha256Digest] at hname
      cases hname
    have hsame : keyOf repository (sha256Digest manifest) =
        keyOf repository' (sha256Digest manifest') → manifest = manifest' := by
      intro heq
      exact hdiffer _ (List.mem_append_left _ (mem_contents_of_manifest
        (kept_keep _ repository tag none manifest).named)) _
        (List.mem_append_right _ (mem_contents_of_manifest
          (kept_keep _ repository' tag' none manifest').named)) (Key.mk.inj heq).2
    simp only [withImage, lookup_manifests_keep, manifests_withBlobs, Placement.reference]
    by_cases hfirst : key = keyOf repository (sha256Digest manifest) ∨ key = keyOf repository tag
    · by_cases hsecond : key = keyOf repository' (sha256Digest manifest') ∨
          key = keyOf repository' tag'
      · rw [if_pos hsecond, if_pos hfirst]
        rcases hfirst with rfl | rfl
        · rcases hsecond with heq | heq
          · rw [hsame heq]
          · exact absurd heq (hdigest htag' _ _)
        · rcases hsecond with heq | heq
          · exact absurd heq.symm (hdigest htag _ _)
          · exact absurd heq hkeys
      · rw [if_neg hsecond, if_pos hfirst, if_pos hfirst]
    · rw [if_neg hfirst, if_neg hfirst]
  referrers := fun _ => by simp [withImage, keep, noted, subjectDigest?]

end Registry

namespace Storing

open Registry (Image keyOf outcome Extends)

variable {r : Registry} {a b c : Call}

/-- A store in the oldest format that succeeds, without another repository, of an artifact that
is there. -/
structure StoresTag (r : Registry) (c : Call) : Prop where
  legacy : Format.routed c.options.format = .legacy
  own : c.options.repository = none
  parsed : ∃ reference, Artifact.parse reference = .ok c.request.artifact
  present : ∃ m, Assoc.lookup (keyOf c.request.artifact.repository c.request.artifact.digest)
    r.manifests = some m ∧ m.content.length < 2 ^ 63
  succeeds : (c.run r).result = .ok ()

/-- No layer of the tag image of the first store is looked up at the tag of the second one. -/
def ApartFrom (r : Registry) (c c' : Call) : Prop :=
  ∀ tag tag', c.request.artifact.tag? c.request.kind.suffix = some tag →
    c'.request.artifact.tag? c'.request.kind.suffix = some tag' →
    r.Apart c.request.artifact.repository tag (· = keyOf c'.request.artifact.repository tag')

/-- The image that a store writes under the tag of its artifact. -/
structure TagImage (r : Registry) (c : Call) (tag : Text) (layers : List Layer)
    (config manifest : Bytes) : Prop where
  tagged : c.request.artifact.tag? c.request.kind.suffix = some tag
  prepares : Prepares c.remote c.options c.request r
    ⟨c.request.artifact.repository, layers, .tag tag⟩ config manifest

theorem StoresTag.artifact (h : StoresTag r c) : c.request.artifact.Parsed :=
  let ⟨_, hparse⟩ := h.parsed
  Artifact.parsed_of_parse hparse

theorem StoresTag.target_eq (h : StoresTag r c) :
    target c.options c.request = c.request.artifact.repository := by
  rw [target, h.own]
  rfl

theorem StoresTag.exists_image (h : StoresTag r c) :
    ∃ tag layers config manifest, TagImage r c tag layers config manifest := by
  obtain ⟨tag, htag⟩ := h.artifact.exists_tag c.request.kind.suffix
  obtain ⟨image, config, manifest, hprepares⟩ :=
    exists_prepares h.artifact (h.target_eq ▸ h.artifact.repository) h.succeeds
  obtain ⟨layer, base, -, -, rfl⟩ := (prepare_legacy_iff h.legacy htag).1 hprepares.prepared
  rw [h.target_eq] at hprepares
  exact ⟨tag, _, config, manifest, htag, hprepares⟩

/-- A store of a tag image succeeds in any state in which it is prepared. -/
theorem StoresTag.run_eq (h : StoresTag r c) {r' : Registry} {tag : Text} {layers : List Layer}
    {config manifest : Bytes} (himage : TagImage r' c tag layers config manifest) :
    (c.run r').result = .ok () ∧ (c.run r').state =
      r'.withImage c.request.artifact.repository (.tag tag) layers config manifest :=
  himage.prepares.store h.artifact (h.target_eq ▸ h.artifact.repository)

/-- A tag image is prepared as before when another store is done. -/
theorem TagImage.after (hr : r.Addressed) (ha : StoresTag r a) (hb : StoresTag r b)
    (hdistinct : ¬ (a.request.artifact = b.request.artifact ∧ a.request.kind = b.request.kind))
    (hapart : ApartFrom r b a) {tag tag' : Text} {layers layers' : List Layer}
    {config config' manifest manifest' : Bytes} (hfirst : TagImage r a tag layers config manifest)
    (hsecond : TagImage r b tag' layers' config' manifest')
    (hdiffer : DigestsDiffer (r.contents ++ (a.run r).state.contents)) :
    TagImage (a.run r).state b tag' layers' config' manifest' := by
  have hstate := (ha.run_eq hfirst).2
  rw [hstate] at hdiffer ⊢
  have hextends := Registry.extends_withImage hr hdiffer
  have honly (key : Registry.Key) :
      (Placement.tag tag).Tags a.request.artifact.repository key ↔
        key = keyOf a.request.artifact.repository tag :=
    ⟨fun ⟨_, htag, hkey⟩ => by cases htag; exact hkey, fun hkey => ⟨tag, rfl, hkey⟩⟩
  refine ⟨hsecond.tagged, ?_, hsecond.prepares.renders, ?_⟩
  · obtain ⟨layer, base, hbuilt, hbase, himage⟩ :=
      (prepare_legacy_iff hb.legacy hsecond.tagged).1 hsecond.prepares.prepared
    refine (prepare_legacy_iff hb.legacy hsecond.tagged).2 ⟨layer, base, hbuilt, ?_, himage⟩
    obtain ⟨m, hm, hlength⟩ := hb.present
    obtain ⟨hdescribed, hlayers⟩ := (resolves_iff hb.artifact hsecond.tagged hm).1 hbase
    obtain ⟨m', hm', hcontent, hsame⟩ := hextends.manifest hm (by
      rw [honly]
      exact fun heq => hb.artifact.digest_ne_tag ha.artifact hfirst.tagged
        (Registry.Key.mk.inj heq).2)
    refine (resolves_iff hb.artifact hsecond.tagged hm').2 ⟨?_, ?_⟩
    · rcases hsame with rfl | hpushed
      · exact hdescribed
      · exact Registry.describe_eq_ok hpushed (hcontent ▸ hlength)
    · refine hextends.image hb.artifact.repository (hb.artifact.startsWith_tag hsecond.tagged)
        ?_ ?_ hlayers
      · rw [honly]
        exact fun heq => hdistinct (keyOf_tag_injective hb.artifact ha.artifact hsecond.tagged
          hfirst.tagged heq.symm)
      · intro digest hlisted key hnames
        rw [honly]
        exact hapart tag' tag hsecond.tagged hfirst.tagged digest hlisted key hnames
  · exact hsecond.prepares.canUpload.imp_right fun hthere content hcontent =>
      (hthere content hcontent).withImage

/-- Independent stores commute. Two stores in the oldest format, each of which would succeed and
whose artifacts are there, succeed one after the other in either order if they differ in the
artifact or in the kind, and both orders come to the same blobs, manifests and referrers; no
layer of either tag image may be looked up at the tag of the other store, and no two of the
contents that are involved may have one digest. Bytes are taken to be fewer than `2 ^ 63`. -/
theorem legacy_stores_commute (r : Registry) (hr : r.Addressed) (a b : Call)
    (ha : StoresTag r a) (hb : StoresTag r b)
    (hdistinct : ¬ (a.request.artifact = b.request.artifact ∧ a.request.kind = b.request.kind))
    (hdiffer : DigestsDiffer
      (r.contents ++ (a.run r).state.contents ++ (b.run r).state.contents))
    (hapart : ApartFrom r a b) (hapart' : ApartFrom r b a) :
    (b.run (a.run r).state).result = .ok () ∧ (a.run (b.run r).state).result = .ok () ∧
      Registry.Agrees (b.run (a.run r).state).state (a.run (b.run r).state).state := by
  obtain ⟨tag, layers, config, manifest, hfirst⟩ := ha.exists_image
  obtain ⟨tag', layers', config', manifest', hsecond⟩ := hb.exists_image
  have hkeys : keyOf a.request.artifact.repository tag ≠
      keyOf b.request.artifact.repository tag' := fun heq =>
    hdistinct (keyOf_tag_injective hb.artifact ha.artifact hsecond.tagged hfirst.tagged heq)
  have hbehind := TagImage.after hr ha hb hdistinct hapart' hfirst hsecond
    (hdiffer.mono (List.subset_append_left _ _))
  have hbehind' := TagImage.after hr hb ha (fun h => hdistinct ⟨h.1.symm, h.2.symm⟩) hapart
    hsecond hfirst (hdiffer.mono fun content hcontent => by
      rcases List.mem_append.1 hcontent with hcontent | hcontent <;> simp [hcontent])
  obtain ⟨hok, hfinal⟩ := hb.run_eq hbehind
  obtain ⟨hok', hfinal'⟩ := ha.run_eq hbehind'
  refine ⟨hok, hok', ?_⟩
  rw [hfinal, hfinal', (ha.run_eq hfirst).2, (hb.run_eq hsecond).2]
  refine Registry.agrees_withImage (ha.artifact.startsWith_tag hfirst.tagged)
    (hb.artifact.startsWith_tag hsecond.tagged) hkeys (hdiffer.mono fun content hcontent => ?_)
  rw [(ha.run_eq hfirst).2, (hb.run_eq hsecond).2]
  rcases List.mem_append.1 hcontent with hcontent | hcontent <;> simp [hcontent]


/-! ## A layer that is found under the tag of the other store -/

abbrev signingCall (n : Nat) : Call := ⟨{}, {}, signing n⟩

theorem storesTag_signing {n : Nat} (hn : n < 3) :
    StoresTag crossed (signingCall n) ∧ ((signingCall n).run crossed).state = withSignature n := by
  have hprepares : Prepares {} {} (signing n) crossed (tagImage n tagLayers) tagConfig
      tagManifest := prepares_signing hn hn rfl rfl
  have htarget : (target {} (signing n)).Parsed := (parsed_signing hn).repository
  obtain ⟨hok, hstate⟩ := hprepares.store (parsed_signing hn) htarget
  exact ⟨⟨rfl, rfl, ⟨_, (parse_signing n hn).1⟩,
    ⟨_, (lookup_crossed n (by omega)).1, by decide⟩, hok⟩, hstate⟩

theorem distinct_signing {n n' : Nat} (h : chained n ≠ chained n') :
    ¬ ((signingCall n).request.artifact = (signingCall n').request.artifact ∧
      (signingCall n).request.kind = (signingCall n').request.kind) :=
  fun hsame => h (congrArg Artifact.repository hsame.1)

theorem digestsDiffer_signing {n n' : Nat} (hn : n < 3) (hn' : n' < 3) :
    DigestsDiffer (crossed.contents ++ ((signingCall n).run crossed).state.contents ++
      ((signingCall n').run crossed).state.contents) := by
  rw [(storesTag_signing hn).2, (storesTag_signing hn').2]
  exact (digestsDiffer_of_nodup nodup_involved.1).mono (List.append_subset.2
    ⟨List.append_subset.2 ⟨contents_crossed, contents_withSignature n⟩, contents_withSignature n'⟩)

/-- A tag image names the tag of the next repository only. -/
theorem apartFrom_signing {n n' : Nat} (hn : n < 3) (hn' : n' < 3)
    (h : keyOf (chained (n + 1)) emptyTag ≠ keyOf (chained n') emptyTag) :
    ApartFrom crossed (signingCall n) (signingCall n') := by
  intro tag tag' htag htag' digest hdigest key hnames
  obtain rfl := Option.some.inj ((tag_signing hn).symm.trans htag)
  obtain rfl := Option.some.inj ((tag_signing hn').symm.trans htag')
  have htagged : Assoc.lookup (keyOf (signingCall n).request.artifact.repository emptyTag)
      crossed.manifests = some { content := crossing } := (lookup_crossed n (by omega)).2
  rw [Registry.tagDigests_of_read htagged read_crossing rfl] at hdigest
  have hdigest : digest = crossingDigest := List.mem_singleton.1 hdigest
  subst hdigest
  rw [Registry.Names.unique hnames (names_crossing hn)]
  exact h

theorem legacy_stores_commute_crossed :
    ((signingCall 2).run ((signingCall 0).run crossed).state).result = .ok () ∧
      ((signingCall 0).run ((signingCall 2).run crossed).state).result = .ok () ∧
      Registry.Agrees ((signingCall 2).run ((signingCall 0).run crossed).state).state
        ((signingCall 0).run ((signingCall 2).run crossed).state).state := by
  have hzero : 0 < 3 := by decide
  have htwo : 2 < 3 := by decide
  exact legacy_stores_commute crossed addressed_crossed (signingCall 0) (signingCall 2)
    (storesTag_signing hzero).1 (storesTag_signing htwo).1 (distinct_signing (by decide))
    (digestsDiffer_signing hzero htwo) (apartFrom_signing hzero htwo (by decide))
    (apartFrom_signing htwo hzero (by decide))

/-- If a layer of one tag image is looked up at the tag of the other store, the order of the
stores matters. -/
theorem stores_disturbed :
    ¬ ∀ (r : Registry) (a b : Call), r.Addressed → StoresTag r a → StoresTag r b →
      ¬ (a.request.artifact = b.request.artifact ∧ a.request.kind = b.request.kind) →
      DigestsDiffer (r.contents ++ (a.run r).state.contents ++ (b.run r).state.contents) →
      (b.run (a.run r).state).result = .ok () ∧ (a.run (b.run r).state).result = .ok () ∧
        Registry.Agrees (b.run (a.run r).state).state (a.run (b.run r).state).state := by
  intro hclaim
  have hzero : 0 < 3 := by decide
  have hone : 1 < 3 := by decide
  obtain ⟨hfirst, hstate⟩ := storesTag_signing hzero
  obtain ⟨hnext, hstate'⟩ := storesTag_signing hone
  obtain ⟨hafter, hafter', hagrees⟩ := hclaim crossed (signingCall 0) (signingCall 1)
    addressed_crossed hfirst hnext (distinct_signing (by decide)) (digestsDiffer_signing hzero hone)
  rw [hstate] at hafter hagrees
  rw [hstate'] at hafter' hagrees
  have hkept := hagrees.manifests (keyOf (chained 0) emptyTag)
  -- The store in the next repository leaves the tag of the first one as it is.
  obtain ⟨layers, config, manifest, -, -, hsecond⟩ := exists_signature hone hone rfl rfl hafter
  -- In the other order a layer of it is what the other store wrote.
  obtain ⟨layers', config', manifest', hlayers, hrenders, hsecond'⟩ :=
    exists_signature hzero hzero rfl rfl hafter'
  obtain rfl := hlayers _ resolves_withSignature
  rw [hsecond, hsecond', lookup_tagImage, lookup_manifests_putImage chained_zero_ne_one,
    withSignature, lookup_tagImage] at hkept
  exact tagManifest_ne hrenders (congrArg StoredManifest.content (Option.some.inj hkept))

end Storing
end Signet
