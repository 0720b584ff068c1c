import Mathlib
import Signet.Proofs.Storage.Run

/-!
# Storing the same material again

A second store of the same request reads what the first one wrote, prepares an image that is
rendered in the same way, and finds everything in place. In the oldest format the layers that
are read back match those that were written, and the new layer is among them; otherwise what
was read before is read again. The exception is a layer that is looked up among the manifests
and found under the tag to which the first store wrote.
-/
namespace Signet
namespace Storing

open Registry (Image keyOf outcome Extends)

variable {r : Registry} {remote : RemoteOptions} {o : StoreOptions} {q : StoreRequest}
  {image : ReadyImage} {config manifest : Bytes} {tag : Text} {layer : Layer} {base : List Layer}

/-- An image that is prepared again goes to the same place, with layers that match those of the
first one and have the same contents. -/
structure PreparedAgain (remote : RemoteOptions) (o : StoreOptions) (q : StoreRequest)
    (r' : Registry) (image : ReadyImage) (layers' : List Layer) : Prop where
  prepared : outcome r' (prepare remote o q) = .ok ⟨image.repository, layers', image.placement⟩
  matching : Layer.AllMatch image.layers layers'
  contents : layers'.map Layer.content = image.layers.map Layer.content

/-- An image that is prepared again is written without any change. -/
theorem Prepares.again (hartifact : q.artifact.Parsed) (htarget : (target o q).Parsed)
    (h : Prepares remote o q r image config manifest) {layers' : List Layer}
    (hagain : PreparedAgain remote o q (putImage r image config manifest) image layers') :
    (runStore Registry.serve remote o q (putImage r image config manifest)).result = .ok () ∧
      (runStore Registry.serve remote o q (putImage r image config manifest)).state =
        putImage r image config manifest := by
  have hdigests : layers'.map Layer.digest = image.layers.map Layer.digest := by
    have hsame := congrArg (List.map sha256Digest) hagain.contents
    rwa [List.map_map, List.map_map] at hsame
  obtain ⟨hthere, hput⟩ : (∀ content ∈ config :: layers'.map Layer.content,
      (putImage r image config manifest).HasContent image.repository content) ∧
        putImage (putImage r image config manifest) ⟨image.repository, layers', image.placement⟩
          config manifest = putImage r image config manifest :=
    Registry.withImage_again hdigests
  have hprepares : Prepares remote o q (putImage r image config manifest)
      ⟨image.repository, layers', image.placement⟩ config manifest :=
    ⟨hagain.prepared, h.renders.congr hagain.matching hagain.contents, .inr hthere⟩
  obtain ⟨hresult, hstate⟩ := hprepares.store hartifact htarget
  exact ⟨hresult, hstate.trans hput⟩

theorem preparedAgain_same {r' : Registry}
    (h : outcome r' (prepare remote o q) = .ok image) :
    PreparedAgain remote o q r' image image.layers :=
  ⟨h, .refl _, rfl⟩

/-! ## Outside of the oldest format -/

/-- What is asked for an artifact is answered as before when an image is put under its digest. -/
theorem retains_putImage (hr : r.Addressed) (htypes : r.DefaultTypes)
    (hartifact : q.artifact.Parsed)
    (hdiffer : DigestsDiffer (r.contents ++ (putImage r image config manifest).contents))
    (hplacement : ∀ tag, image.placement ≠ .tag tag) :
    Retains remote q.artifact [q.kind.suffix] r (putImage r image config manifest) := by
  have hextends := Registry.extends_withImage hr hdiffer
  have honly (key : Registry.Key) : ¬ image.placement.Tags image.repository key :=
    fun ⟨tag, htag, _⟩ => hplacement tag htag
  refine ⟨hextends.listsReferrers, ?_, ?_⟩
  · intro m hm
    obtain ⟨m', hm', hcontent, hsame⟩ := hextends.manifest hm (honly _)
    have hmediaType : m'.mediaType = m.mediaType := by
      rcases hsame with rfl | hpushed
      · rfl
      · rw [hpushed, htypes _ m hm]
    obtain ⟨content, mediaType⟩ := m
    obtain ⟨content', mediaType'⟩ := m'
    cases hcontent
    cases hmediaType
    exact hm'
  · intro kind tag _ htag layers hlayers
    have hwhole := Remote.whole_tag hartifact (whole_suffix kind) htag
    rw [Registry.outcome_loadLayers_eq_ok_iff hartifact.repository hwhole] at hlayers ⊢
    exact hextends.image hartifact.repository (hartifact.startsWith_tag htag) (honly _)
      (fun _ _ key _ => honly key) hlayers

/-! ## In the oldest format -/

/-- The layers that the first store wrote under the tag of the artifact are read back, and the new
layer is among them. -/
theorem resolves_written (hr : r.Addressed) (htypes : r.DefaultTypes)
    (hartifact : q.artifact.Parsed) (htag : q.artifact.tag? q.kind.suffix = some tag)
    (hbuilt : q.material.layer q.kind = .ok layer)
    (hbase : Resolves r remote q.artifact q.kind base)
    (hrenders : Registry.Renders (.tag tag) (layer.appendTo base) config manifest)
    {r' : Registry}
    (hr' : r.withImage q.artifact.repository (.tag tag) (layer.appendTo base) config manifest = r')
    {m : StoredManifest}
    (hm : Assoc.lookup (keyOf q.artifact.repository q.artifact.digest) r'.manifests = some m)
    (hlength : m.content.length < 2 ^ 63) :
    ∃ layers', Resolves r' remote q.artifact q.kind layers' ∧
      Layer.AllMatch (layer.appendTo base) layers' ∧ layer.appendTo layers' = layers' ∧
      ∀ l ∈ layers', l.content ∈ r'.contents := by
  subst hr'
  have hkeeps : (r.withImage q.artifact.repository (.tag tag) (layer.appendTo base) config
      manifest).Keeps q.artifact.repository tag (layer.appendTo base) (.tag tag) :=
    Registry.keeps_withImage hrenders
  obtain ⟨layers', himage, hmatch, hblobs⟩ :=
    hkeeps.image_of_blobs (Registry.hashed_withImage hr.blob) hartifact.repository
      ((sound_of_built hbuilt).appendTo (sound_of_resolves hartifact htag hbase)) remote
  have hany := hmatch.any_alike layer
  rw [Layer.any_alike_appendTo] at hany
  refine ⟨layers', (resolves_iff hartifact htag hm).2
    ⟨Registry.describe_eq_ok (htypes.withImage _ m hm) hlength, himage⟩, hmatch, ?_, ?_⟩
  · rw [Layer.appendTo, hany, if_pos rfl]
  · intro l hl
    obtain ⟨key, hkey⟩ := hblobs l hl
    exact Registry.mem_contents_of_blob hkey

/-- What an artifact is resolved with stays if the image is put elsewhere, or if the artifact is
not there afterwards either. -/
theorem resolves_again (hr : r.Addressed) (hartifact : q.artifact.Parsed)
    (htarget : (target o q).Parsed) (htag : q.artifact.tag? q.kind.suffix = some tag)
    (hbase : Resolves r remote q.artifact q.kind base) {layers : List Layer} {r' : Registry}
    (hr' : r.withImage (target o q) (.tag tag) layers config manifest = r')
    (hdiffer : DigestsDiffer (r.contents ++ r'.contents))
    (helsewhere : target o q ≠ q.artifact.repository ∧
        r.Apart q.artifact.repository tag (· = keyOf (target o q) tag) ∨
      Assoc.lookup (keyOf q.artifact.repository q.artifact.digest) r'.manifests = none) :
    Resolves r' remote q.artifact q.kind base := by
  subst hr'
  have hextends := Registry.extends_withImage hr hdiffer
  have honly (key : Registry.Key) :
      (Placement.tag tag).Tags (target o q) key ↔ key = keyOf (target o q) tag :=
    ⟨fun ⟨_, htag, hkey⟩ => by cases htag; exact hkey, fun hkey => ⟨tag, rfl, hkey⟩⟩
  have hdigest : ¬ (Placement.tag tag).Tags (target o q)
      (keyOf q.artifact.repository q.artifact.digest) := by
    rw [honly]
    exact fun heq => hartifact.digest_ne_tag hartifact htag (Registry.Key.mk.inj heq).2
  rcases helsewhere with ⟨hne, hapart⟩ | hmissing
  · have hname : q.artifact.repository.toText ≠ (target o q).toText := fun heq =>
      hne (htarget.toText_injective hartifact.repository heq.symm)
    have hsame (reference : Text) :
        Assoc.lookup (keyOf q.artifact.repository reference)
            (r.withImage (target o q) (.tag tag) layers config manifest).manifests =
          Assoc.lookup (keyOf q.artifact.repository reference) r.manifests :=
      Registry.lookup_manifests_withImage hname
    cases hm : Assoc.lookup (keyOf q.artifact.repository q.artifact.digest) r.manifests with
    | none =>
      exact (resolves_iff_of_missing hartifact ((hsame _).trans hm)).2
        ((resolves_iff_of_missing hartifact hm).1 hbase)
    | some m =>
      obtain ⟨hdescribed, himage⟩ := (resolves_iff hartifact htag hm).1 hbase
      refine (resolves_iff hartifact htag ((hsame _).trans hm)).2 ⟨hdescribed, ?_⟩
      refine hextends.image hartifact.repository (hartifact.startsWith_tag htag) ?_ ?_ himage
      · rw [honly]
        exact fun heq => hname (Registry.Key.mk.inj heq).1
      · intro digest hlisted key hnames
        rw [honly]
        exact hapart digest hlisted key hnames
  · have hm : Assoc.lookup (keyOf q.artifact.repository q.artifact.digest) r.manifests = none := by
      rw [Option.eq_none_iff_forall_ne_some]
      intro m hm
      obtain ⟨m', hm', -⟩ := hextends.manifest hm hdigest
      rw [hmissing] at hm'
      cases hm'
    exact (resolves_iff_of_missing hartifact hmissing).2
      ((resolves_iff_of_missing hartifact hm).1 hbase)

/-- An image of the oldest format is prepared again. -/
theorem preparedAgain_legacy (hr : r.Addressed) (htypes : r.DefaultTypes)
    (hartifact : q.artifact.Parsed) (htarget : (target o q).Parsed)
    (hlegacy : Format.routed o.format = .legacy)
    (h : Prepares remote o q r image config manifest)
    (hdiffer : DigestsDiffer (r.contents ++ (putImage r image config manifest).contents ++
      image.layers.map Layer.content))
    (hlength : ∀ m, Assoc.lookup (keyOf q.artifact.repository q.artifact.digest)
      (putImage r image config manifest).manifests = some m → m.content.length < 2 ^ 63)
    (hapart : ∀ tag, target o q ≠ q.artifact.repository →
      q.artifact.tag? q.kind.suffix = some tag →
      r.Apart q.artifact.repository tag (· = keyOf (target o q) tag)) :
    ∃ layers', PreparedAgain remote o q (putImage r image config manifest) image layers' := by
  obtain ⟨tag, htag⟩ := hartifact.exists_tag q.kind.suffix
  obtain ⟨layer, base, hbuilt, hbase, rfl⟩ := (prepare_legacy_iff hlegacy htag).1 h.prepared
  have hprepared {r' : Registry} {base' : List Layer}
      (hbase' : Resolves r' remote q.artifact q.kind base') :
      outcome r' (prepare remote o q) =
        .ok ⟨target o q, layer.appendTo base', .tag tag⟩ :=
    (prepare_legacy_iff hlegacy htag).2 ⟨layer, base', hbuilt, hbase', rfl⟩
  have hstates : DigestsDiffer (r.contents ++
      (putImage r ⟨target o q, layer.appendTo base, .tag tag⟩ config manifest).contents) :=
    hdiffer.mono (List.subset_append_left _ _)
  by_cases helsewhere : target o q ≠ q.artifact.repository ∨
      Assoc.lookup (keyOf q.artifact.repository q.artifact.digest) (putImage r
        ⟨target o q, layer.appendTo base, .tag tag⟩ config manifest).manifests = none
  · exact ⟨_, preparedAgain_same (hprepared (resolves_again hr hartifact htarget htag hbase rfl
      hstates (helsewhere.imp_left fun hne => ⟨hne, hapart tag hne htag⟩)))⟩
  · -- The artifact is there and its own repository was written to.
    obtain ⟨hown, hthere⟩ := not_or.1 helsewhere
    rw [not_not] at hown
    obtain ⟨m, hm⟩ := Option.ne_none_iff_exists'.1 hthere
    obtain ⟨layers', hresolves, hmatch, hnothing, hcontents⟩ := resolves_written hr htypes
      hartifact htag hbuilt hbase h.renders (by rw [← hown]; rfl) hm (hlength m hm)
    have hagain := hprepared hresolves
    rw [hnothing] at hagain
    refine ⟨layers', hagain, hmatch, map_content_of_allMatch hmatch ?_⟩
    have hmem : ∀ l ∈ layer.appendTo base ++ layers', l.content ∈ r.contents ++
        (putImage r ⟨target o q, layer.appendTo base, .tag tag⟩ config manifest).contents ++
        (layer.appendTo base).map Layer.content := by
      intro l hl
      rcases List.mem_append.1 hl with hl | hl
      · exact List.mem_append_right _ (List.mem_map_of_mem hl)
      · exact List.mem_append_left _ (List.mem_append_right _ (hcontents l hl))
    exact fun l hl l' hl' => hdiffer _ (hmem l hl) _ (hmem l' hl')

/-! ## Both stores -/

/-- Storing the same material again changes nothing. If a store succeeds in a registry that is
addressed by content and whose manifests have the media type of images, and no two of the
contents that are involved have one digest, then the same store succeeds once more and leaves
the registry as it is; if the oldest format is used and another repository takes the place of
that of the artifact, no layer of the tag image may be looked up at the tag that is written to.
Bytes are taken to be fewer than `2 ^ 63`. -/
theorem store_idempotent (r : Registry) (hr : r.Addressed) (htypes : r.DefaultTypes)
    (remote : RemoteOptions) (o : StoreOptions) (q : StoreRequest) {reference : Text}
    (hparse : Artifact.parse reference = .ok q.artifact)
    (hoverride : ∀ repository, o.repository = some repository →
      ∃ name, Repository.parse name = .ok repository)
    (hok : (runStore Registry.serve remote o q r).result = .ok ())
    (hdiffer : ∀ image, outcome r (prepare remote o q) = .ok image →
      DigestsDiffer (r.contents ++ (runStore Registry.serve remote o q r).state.contents ++
        image.layers.map Layer.content))
    (hlength : ∀ m, Assoc.lookup (keyOf q.artifact.repository q.artifact.digest)
      (runStore Registry.serve remote o q r).state.manifests = some m →
        m.content.length < 2 ^ 63)
    (hapart : Format.routed o.format = .legacy → ∀ repository tag,
      o.repository = some repository → repository ≠ q.artifact.repository →
      q.artifact.tag? q.kind.suffix = some tag →
      r.Apart q.artifact.repository tag (· = keyOf repository tag)) :
    (runStore Registry.serve remote o q
        (runStore Registry.serve remote o q r).state).result = .ok () ∧
      (runStore Registry.serve remote o q (runStore Registry.serve remote o q r).state).state =
        (runStore Registry.serve remote o q r).state := by
  have hartifact := Artifact.parsed_of_parse hparse
  have htarget := parsed_target hartifact hoverride
  obtain ⟨image, config, manifest, hprepares⟩ := exists_prepares hartifact htarget hok
  obtain ⟨-, hstate⟩ := hprepares.store hartifact htarget
  have hdiffer := hdiffer image hprepares.prepared
  rw [hstate] at hdiffer hlength ⊢
  have hagain : ∃ layers',
      PreparedAgain remote o q (putImage r image config manifest) image layers' := by
    by_cases hlegacy : Format.routed o.format = .legacy
    · refine preparedAgain_legacy hr htypes hartifact htarget hlegacy hprepares hdiffer hlength ?_
      intro tag hne htag
      cases hrepository : o.repository with
      | none =>
        rw [target, hrepository] at hne
        exact absurd rfl hne
      | some repository =>
        rw [target, hrepository] at hne ⊢
        exact hapart hlegacy repository tag hrepository hne htag
    · have hplacement : ∀ tag, image.placement ≠ .tag tag := by
        have hcourse := Attempt.yields_run Registry.serve (prepare remote o q) r
        have hprepared := hprepares.prepared
        rw [outcome] at hprepared
        rw [hprepared] at hcourse
        simpa [tagged_iff_of_prepare hcourse] using hlegacy
      have hretains : Retains remote q.artifact [q.kind.suffix] r
          (putImage r image config manifest) :=
        retains_putImage hr htypes hartifact (hdiffer.mono (List.subset_append_left _ _))
          hplacement
      exact ⟨_, preparedAgain_same (hretains.prepare hartifact hlegacy hprepares.prepared)⟩
  obtain ⟨layers', hagain⟩ := hagain
  exact hprepares.again hartifact htarget hagain

/-! ## A layer that is found under a tag -/

/-- The digest of an object without members. -/
def emptyDigest : Text :=
  "sha256:44136fa355b3678a1146ad16f7e8649e94fb4fc21fe77e8310c060f61caaff8a"

/-- The tag of the signatures of such an object. -/
def emptyTag : Text :=
  "sha256-44136fa355b3678a1146ad16f7e8649e94fb4fc21fe77e8310c060f61caaff8a.sig"

def emptyObject : Bytes := encoded "\x7b\x7d"

/-- Repositories of which each one is named like a blob of the one before it. -/
def chained : Nat → Repository
  | 0 => ⟨"r.io", "a"⟩
  | n + 1 => ⟨"r.io", (chained n).path ++ "/blobs/x"⟩

/-- The digest of a layer that leads to the same tag in the next repository. -/
def crossingDigest : Text := "x/manifests/" ++ emptyTag

/-- A tag image with that layer. -/
def crossing : Bytes :=
  encoded ("\x7b\"layers\":[\x7b\"mediaType\":\"m\",\"digest\":\"" ++ crossingDigest ++
    "\"\x7d]\x7d")

/-- Each of the repositories has the artifact, and that image under its tag. -/
def crossed : Registry :=
  { manifests := [0, 1, 2, 3].flatMap fun n =>
      [(keyOf (chained n) emptyDigest, { content := emptyObject }),
       (keyOf (chained n) emptyTag, { content := crossing })] }

/-- A signature of the artifact in one of the repositories. -/
def signing (n : Nat) : StoreRequest :=
  { sampleRequest with artifact := ⟨chained n, emptyDigest⟩ }

/-- The layers that the first store of a signature writes. -/
def tagLayers : List Layer := [found crossing, signatureLayer]

def tagConfig : Bytes := written ((Placement.tag emptyTag).config tagLayers)

def tagManifest : Bytes := written (imageManifest (.tag emptyTag) tagConfig tagLayers)

/-- The contents that are kept in the registry, or are written by such a store. -/
def involved : List Bytes :=
  tagLayers.map Layer.content ++ [tagConfig, tagManifest, emptyObject]

/-- What is computed of them, at once because the digests take long. -/
theorem computed_involved :
    ((imageManifest (.tag emptyTag) tagConfig tagLayers).canonical.toOption.isSome = true ∧
      tagManifest.length < 2 ^ 63) ∧
    (involved.map sha256Digest).Nodup ∧ sha256Digest emptyObject = emptyDigest := by
  decide +kernel

theorem canonical_tagManifest :
    (imageManifest (.tag emptyTag) tagConfig tagLayers).canonical.toOption.isSome = true ∧
      tagManifest.length < 2 ^ 63 :=
  computed_involved.1

theorem nodup_involved :
    (involved.map sha256Digest).Nodup ∧ sha256Digest emptyObject = emptyDigest :=
  computed_involved.2

theorem parse_signing : ∀ n < 3,
    Artifact.parse ((chained n).toText ++ "@" ++ emptyDigest) = .ok (signing n).artifact ∧
      (signing n).artifact.tag? Kind.signature.suffix = some emptyTag ∧
      Registry.uploadName? {} (chained n) = some (chained n).toText := by
  decide +kernel

theorem parsed_signing {n : Nat} (h : n < 3) : (signing n).artifact.Parsed :=
  Artifact.parsed_of_parse (parse_signing n h).1

theorem tag_signing {n : Nat} (h : n < 3) :
    (signing n).artifact.tag? Kind.signature.suffix = some emptyTag :=
  (parse_signing n h).2.1

theorem appendTo_found (content : Bytes) :
    signatureLayer.appendTo [found content] = [found content, signatureLayer] := by
  have hsame : (found content).annotations.same signatureLayer.annotations = false := by
    rfl
  simp [Layer.appendTo, Layer.alike, hsame]

theorem renders_tagManifest :
    Registry.Renders (.tag emptyTag) tagLayers tagConfig tagManifest :=
  renders_written canonical_tagManifest.1

/-- A manifest that lists that one as a layer is another one. -/
theorem tagManifest_ne {config manifest : Bytes}
    (h : Registry.Renders (.tag emptyTag) (signatureLayer.appendTo [found tagManifest]) config
      manifest) : tagManifest ≠ manifest := by
  rintro rfl
  have hlisted : (found tagManifest).digest ∈ tagLayers.map Layer.digest := by
    rw [← renders_tagManifest.digests_eq h]
    exact List.mem_map_of_mem (Layer.mem_appendTo List.mem_cons_self)
  have hnodup := nodup_involved.1
  rw [involved, List.map_append, List.map_map, List.nodup_append] at hnodup
  exact hnodup.2.2 _ hlisted (sha256Digest tagManifest) (List.mem_map_of_mem (by simp)) rfl

/-- What is kept in the registry. -/
theorem kept_crossed {key : Registry.Key} {m : StoredManifest}
    (h : Assoc.lookup key crossed.manifests = some m) : ∃ n,
      key = keyOf (chained n) emptyDigest ∧ m = { content := emptyObject } ∨
      key = keyOf (chained n) emptyTag ∧ m = { content := crossing } := by
  obtain ⟨n, -, hmem⟩ := List.mem_flatMap.1 (Assoc.mem_of_lookup_eq_some h)
  exact ⟨n, by simpa using hmem⟩

theorem addressed_crossed : crossed.Addressed := by
  refine ⟨fun key content h => (nomatch h), fun key m h hstart => ?_⟩
  obtain ⟨n, ⟨rfl, rfl⟩ | ⟨rfl, rfl⟩⟩ := kept_crossed h
  · exact nodup_involved.2
  · have htag : emptyTag.startsWith "sha256:" = false := by decide
    rw [keyOf, htag] at hstart
    cases hstart

theorem defaultTypes_crossed : crossed.DefaultTypes := by
  intro key m h
  obtain ⟨n, ⟨-, rfl⟩ | ⟨-, rfl⟩⟩ := kept_crossed h <;> rfl

theorem lookup_crossed : ∀ n < 4,
    Assoc.lookup (keyOf (chained n) emptyDigest) crossed.manifests =
        some { content := emptyObject } ∧
      Assoc.lookup (keyOf (chained n) emptyTag) crossed.manifests =
        some { content := crossing } := by
  intro n hn
  interval_cases n <;> exact ⟨rfl, rfl⟩

theorem read_crossing : Json.readBytes crossing = .ok (naming crossingDigest) := by
  cbv

theorem query?_crossing : ∀ n < 3,
    Registry.query? ((chained n).path.split '/' ++
      (Registry.beforeMarks ("blobs/" ++ crossingDigest)).split '/') =
        some (.manifest (chained (n + 1)).path emptyTag) := by
  intro n hn
  interval_cases n <;> rfl

/-- The image of a repository names the tag of the next one. -/
theorem names_crossing {n : Nat} (hn : n < 3) :
    Registry.Names (chained n) crossingDigest (keyOf (chained (n + 1)) emptyTag) := by
  have hregistry : (chained n).registry = "r.io" := by cases n <;> rfl
  refine ⟨_, _, query?_crossing n hn, ?_⟩
  rw [hregistry]
  rfl

/-- The layer is what the next repository has under the tag. -/
theorem resolves_signing {r' : Registry} {n : Nat} (hn : n < 3) {content : Bytes}
    (hartifact : Assoc.lookup (keyOf (chained n) emptyDigest) r'.manifests =
      some { content := emptyObject })
    (htag : Assoc.lookup (keyOf (chained n) emptyTag) r'.manifests = some { content := crossing })
    (hnext : Assoc.lookup (keyOf (chained (n + 1)) emptyTag) r'.manifests = some { content }) :
    Resolves r' {} (signing n).artifact .signature [found content] :=
  resolves_naming (parsed_signing hn) (tag_signing hn) hartifact
    (Registry.describe_eq_ok rfl (by decide)) htag read_crossing (by decide) (by decide)
    (names_crossing hn) hnext

theorem resolves_crossed {n : Nat} (hn : n < 3) :
    Resolves crossed {} (signing n).artifact .signature [found crossing] :=
  resolves_signing hn (lookup_crossed n (by omega)).1 (lookup_crossed n (by omega)).2
    (lookup_crossed (n + 1) (by omega)).2

/-- An image under the tag in one of the repositories. -/
def tagImage (n : Nat) (layers : List Layer) : ReadyImage := ⟨chained n, layers, .tag emptyTag⟩

/-- The registry after the first store of a signature. -/
def withSignature (n : Nat) : Registry :=
  putImage crossed (tagImage n tagLayers) tagConfig tagManifest

theorem lookup_tagImage (r' : Registry) (n : Nat) (layers : List Layer) (config manifest : Bytes) :
    Assoc.lookup (keyOf (chained n) emptyTag)
        (putImage r' (tagImage n layers) config manifest).manifests =
      some { content := manifest } :=
  (Registry.kept_keep _ _ _ _ _).referenced

theorem chained_zero_ne_one : (chained 0).toText ≠ (chained 1).toText := by
  decide

/-- After a store in the next repository its manifest is read as a layer. -/
theorem resolves_withSignature :
    Resolves (withSignature 1) {} (signing 0).artifact .signature [found tagManifest] := by
  have hsame (reference : Text) :
      Assoc.lookup (keyOf (chained 0) reference) (withSignature 1).manifests =
        Assoc.lookup (keyOf (chained 0) reference) crossed.manifests :=
    lookup_manifests_putImage chained_zero_ne_one
  exact resolves_signing (by decide) ((hsame _).trans (lookup_crossed 0 (by decide)).1)
    ((hsame _).trans (lookup_crossed 0 (by decide)).2) (lookup_tagImage _ _ _ _ _)

/-- The signature in one of the repositories is prepared for one of them. -/
theorem prepares_signing {o : StoreOptions} {n t : Nat} (hn : n < 3) (ht : t < 3)
    (htarget : target o (signing n) = chained t) (hlegacy : Format.routed o.format = .legacy) :
    Prepares {} o (signing n) crossed (tagImage t tagLayers) tagConfig tagManifest := by
  have hrenders := renders_tagManifest
  have hname := (parse_signing t ht).2.2
  rw [tagLayers, ← appendTo_found] at hrenders
  rw [← htarget] at hname
  have hprepares := prepares_of_resolves hlegacy (tag_signing hn) built_signature
    (resolves_crossed hn) hrenders hname
  rwa [appendTo_found, htarget] at hprepares

/-- A store of the signature that succeeds adds its layer to those that are resolved. -/
theorem exists_signature {r' : Registry} {o : StoreOptions} {n t : Nat} (hn : n < 3) (ht : t < 3)
    (htarget : target o (signing n) = chained t) (hlegacy : Format.routed o.format = .legacy)
    (hok : (runStore Registry.serve {} o (signing n) r').result = .ok ()) :
    ∃ layers config manifest,
      (∀ base, Resolves r' {} (signing n).artifact .signature base →
        layers = signatureLayer.appendTo base) ∧
      Registry.Renders (.tag emptyTag) layers config manifest ∧
      (runStore Registry.serve {} o (signing n) r').state =
        putImage r' (tagImage t layers) config manifest := by
  have hartifact := parsed_signing hn
  have hparsed : (target o (signing n)).Parsed := htarget ▸ (parsed_signing ht).repository
  obtain ⟨image, config, manifest, hprepares⟩ := exists_prepares hartifact hparsed hok
  obtain ⟨layer, base', -, -, rfl⟩ :=
    (prepare_legacy_iff hlegacy (tag_signing hn)).1 hprepares.prepared
  refine ⟨_, config, manifest, fun base hbase => ?_, hprepares.renders, ?_⟩
  · have hprepared := (prepare_legacy_iff hlegacy (tag_signing hn)).2
      ⟨signatureLayer, base, built_signature, hbase, rfl⟩
    exact congrArg ReadyImage.layers (Except.ok.inj (hprepares.prepared.symm.trans hprepared))
  · rw [(hprepares.store hartifact hparsed).2, htarget]
    rfl

theorem contents_crossed : crossed.contents ⊆ involved := by
  simp [crossed, Registry.contents, involved, tagLayers, found]

theorem layers_involved : tagLayers.map Layer.content ⊆ involved :=
  List.subset_append_left _ _

theorem contents_withSignature (n : Nat) : (withSignature n).contents ⊆ involved := by
  have hadded : tagConfig :: tagManifest :: tagLayers.map Layer.content ⊆ involved := by
    simp [involved]
  exact List.Subset.trans (Registry.contents_withImage _ _ _ _ _)
    (List.append_subset.2 ⟨contents_crossed, hadded⟩)

/-- The contents that a store of the signature involves have different digests. -/
theorem digestsDiffer_withSignature (n : Nat) :
    DigestsDiffer (crossed.contents ++ (withSignature n).contents ++
      tagLayers.map Layer.content) :=
  (digestsDiffer_of_nodup nodup_involved.1).mono (List.append_subset.2
    ⟨List.append_subset.2 ⟨contents_crossed, contents_withSignature n⟩, layers_involved⟩)

theorem store_idempotent_crossed :
    (runStore Registry.serve {} {} (signing 0) crossed).result = .ok () ∧
      (runStore Registry.serve {} {} (signing 0)
        (runStore Registry.serve {} {} (signing 0) crossed).state).result = .ok () ∧
      (runStore Registry.serve {} {} (signing 0)
        (runStore Registry.serve {} {} (signing 0) crossed).state).state =
          (runStore Registry.serve {} {} (signing 0) crossed).state := by
  have hzero : 0 < 3 := by decide
  have htarget : (target {} (signing 0)).Parsed := (parsed_signing hzero).repository
  have hprepares : Prepares {} {} (signing 0) crossed (tagImage 0 tagLayers) tagConfig tagManifest :=
    prepares_signing hzero hzero rfl rfl
  obtain ⟨hok, hstate⟩ := hprepares.store (parsed_signing hzero) htarget
  refine ⟨hok, store_idempotent crossed addressed_crossed defaultTypes_crossed {} {} (signing 0)
    (parse_signing 0 hzero).1 (fun _ h => nomatch h) hok ?_ ?_ (fun _ _ _ h => nomatch h)⟩
  · intro image himage
    obtain rfl := Except.ok.inj (hprepares.prepared.symm.trans himage)
    rw [hstate]
    exact digestsDiffer_withSignature 0
  · intro m hm
    rw [hstate] at hm
    rcases Registry.manifest_withImage hm with rfl | hm
    · exact canonical_tagManifest.2
    · obtain rfl := Option.some.inj ((lookup_crossed 0 (by decide)).1.symm.trans hm)
      decide

/-- The signature goes to the next repository. -/
def acrossOptions : StoreOptions := { repository := some (chained 1) }

/-- If a layer of the tag image is looked up at the tag that is written to, a second store finds
something else there. -/
theorem store_differs :
    ¬ ∀ (r : Registry) (remote : RemoteOptions) (o : StoreOptions) (q : StoreRequest)
      (reference : Text), r.Addressed → r.DefaultTypes →
      Artifact.parse reference = .ok q.artifact →
      (∀ repository, o.repository = some repository →
        ∃ name, Repository.parse name = .ok repository) →
      (runStore Registry.serve remote o q r).result = .ok () →
      (∀ image, outcome r (prepare remote o q) = .ok image →
        DigestsDiffer (r.contents ++ (runStore Registry.serve remote o q r).state.contents ++
          image.layers.map Layer.content)) →
      (runStore Registry.serve remote o q
          (runStore Registry.serve remote o q r).state).result = .ok () ∧
        Registry.Agrees (runStore Registry.serve remote o q r).state
          (runStore Registry.serve remote o q
            (runStore Registry.serve remote o q r).state).state := by
  intro hclaim
  have hzero : 0 < 3 := by decide
  have hone : 1 < 3 := by decide
  have hoverride (repository : Repository) (h : acrossOptions.repository = some repository) :
      ∃ name, Repository.parse name = .ok repository := by
    cases h
    exact ⟨"r.io/a/blobs/x", rfl⟩
  have htarget : (target acrossOptions (signing 0)).Parsed :=
    parsed_target (parsed_signing hzero) hoverride
  have hprepares : Prepares {} acrossOptions (signing 0) crossed (tagImage 1 tagLayers) tagConfig
      tagManifest := prepares_signing hzero hone rfl rfl
  obtain ⟨hok, hfirst⟩ := hprepares.store (parsed_signing hzero) htarget
  have hstate : (runStore Registry.serve {} acrossOptions (signing 0) crossed).state =
    withSignature 1 := hfirst
  have hdiffer (image : ReadyImage)
      (himage : outcome crossed (prepare {} acrossOptions (signing 0)) = .ok image) :
      DigestsDiffer (crossed.contents ++
        (runStore Registry.serve {} acrossOptions (signing 0) crossed).state.contents ++
          image.layers.map Layer.content) := by
    obtain rfl := Except.ok.inj (hprepares.prepared.symm.trans himage)
    rw [hstate]
    exact digestsDiffer_withSignature 1
  obtain ⟨hagain, hagrees⟩ := hclaim crossed {} acrossOptions (signing 0) _ addressed_crossed
    defaultTypes_crossed (parse_signing 0 hzero).1 hoverride hok hdiffer
  rw [hstate] at hagain hagrees
  -- The second store has a layer with what the first one wrote.
  obtain ⟨layers, config, manifest, hlayers, hrenders, hsecond⟩ :=
    exists_signature hzero hone rfl rfl hagain
  obtain rfl := hlayers _ resolves_withSignature
  have hkept := hagrees.manifests (keyOf (chained 1) emptyTag)
  rw [hsecond, lookup_tagImage, withSignature, lookup_tagImage] at hkept
  exact tagManifest_ne hrenders (congrArg StoredManifest.content (Option.some.inj hkept))

end Storing
end Signet
