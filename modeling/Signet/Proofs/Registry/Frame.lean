import Mathlib
import Signet.Proofs.Registry.Deposit
import Signet.Proofs.Registry.Layers

/-!
# What stays when an image is written

Blobs stay as they are, and so do the manifests under all keys but the tag to which the image
is written: what is pushed under its digest is what was there, if no two contents have one
digest. So whatever was read before is read afterwards, unless a layer of a tag image is looked
up among the manifests and is found under that tag.

## Main definitions

* `DigestsDiffer` — no two of the contents have one digest.
* `Registry.Addressed` — what is kept under a SHA-256 digest has that digest.
* `Registry.Names` — the manifest that is given out for a digest of a layer.
* `Registry.Extends` — everything stays but the manifests under some keys.
* `Registry.Agrees` — the same blobs, manifests and lists of referrers.
* `Registry.Carries` — what comes of an attempt comes of it in another registry.
-/
namespace Signet

open Attempt (Sends)

/-- No two of the contents have one digest. -/
def DigestsDiffer (contents : List Bytes) : Prop :=
  ∀ a ∈ contents, ∀ b ∈ contents, sha256Digest a = sha256Digest b → a = b

theorem digestsDiffer_of_nodup {contents : List Bytes} (h : (contents.map sha256Digest).Nodup) :
    DigestsDiffer contents :=
  fun _ ha _ hb hdigest => List.inj_on_of_nodup_map h ha hb hdigest

theorem DigestsDiffer.mono {contents others : List Bytes} (h : DigestsDiffer others)
    (hsubset : contents ⊆ others) : DigestsDiffer contents :=
  fun a ha b hb hdigest => h a (hsubset ha) b (hsubset hb) hdigest

/-- The tag under which an image is put in a repository. -/
def Placement.Tags (repository : Repository) (placement : Placement) (key : Registry.Key) : Prop :=
  ∃ tag, placement = .tag tag ∧ key = Registry.keyOf repository tag

namespace Registry

variable {r r' r'' : Registry} {o : RemoteOptions} {repository : Repository} {tag : Text}
  {only : Key → Prop}

/-! ## Contents -/

def contents (r : Registry) : List Bytes :=
  r.blobs.map Prod.snd ++ r.manifests.map fun p => p.2.content

theorem mem_contents_of_blob {key : Key} {content : Bytes}
    (h : Assoc.lookup key r.blobs = some content) : content ∈ r.contents :=
  List.mem_append_left _ (List.mem_map.2 ⟨_, Assoc.mem_of_lookup_eq_some h, rfl⟩)

theorem mem_contents_of_manifest {key : Key} {m : StoredManifest}
    (h : Assoc.lookup key r.manifests = some m) : m.content ∈ r.contents :=
  List.mem_append_right _ (List.mem_map.2 ⟨_, Assoc.mem_of_lookup_eq_some h, rfl⟩)

/-- Blobs are added at most. -/
theorem blobs_withBlobs (repository : Repository) (added : List Bytes) :
    (r.withBlobs repository added).blobs.map Prod.snd ⊆ r.blobs.map Prod.snd ++ added := by
  induction added generalizing r with
  | nil => simp
  | cons content rest ih =>
    have hfirst : (r.withBlob repository content).blobs.map Prod.snd ⊆
        content :: r.blobs.map Prod.snd := by
      intro other hother
      rw [withBlob] at hother
      split_ifs at hother
      · exact List.mem_cons_of_mem _ hother
      · obtain ⟨p, hp, rfl⟩ := List.mem_map.1 hother
        rcases Assoc.mem_put hp with rfl | hp
        · exact List.mem_cons_self
        · exact List.mem_cons_of_mem _ (List.mem_map_of_mem hp)
    intro other hother
    rcases List.mem_append.1 (ih hother) with hother | hother
    · rcases List.mem_cons.1 (hfirst hother) with rfl | hother
      · simp
      · exact List.mem_append_left _ hother
    · simp [hother]

theorem contents_withBlobs (repository : Repository) (added : List Bytes) :
    (r.withBlobs repository added).contents ⊆ r.contents ++ added := by
  intro content hcontent
  rw [contents, manifests_withBlobs] at hcontent
  rcases List.mem_append.1 hcontent with hcontent | hcontent
  · have hmem := blobs_withBlobs repository added hcontent
    rcases List.mem_append.1 hmem with hmem | hmem
    · exact List.mem_append_left _ (List.mem_append_left _ hmem)
    · exact List.mem_append_right _ hmem
  · exact List.mem_append_left _ (List.mem_append_right _ hcontent)

/-- Writing an image adds its configuration, its layers and its manifest at most. -/
theorem contents_withImage (repository : Repository) (placement : Placement)
    (layers : List Layer) (config manifest : Bytes) :
    (r.withImage repository placement layers config manifest).contents ⊆
      r.contents ++ (config :: manifest :: layers.map Layer.content) := by
  intro content hcontent
  have hblobs := contents_withBlobs (r := r) repository (config :: layers.map Layer.content)
  have hold {other : Bytes} (hother : other ∈
      (r.withBlobs repository (config :: layers.map Layer.content)).contents) :
      other ∈ r.contents ++ (config :: manifest :: layers.map Layer.content) := by
    have hmem := hblobs hother
    simp only [List.mem_append, List.mem_cons] at hmem ⊢
    rcases hmem with hmem | hmem | hmem <;> simp [hmem]
  rcases List.mem_append.1 hcontent with hcontent | hcontent
  · exact hold (List.mem_append_left _ hcontent)
  · obtain ⟨p, hp, rfl⟩ := List.mem_map.1 hcontent
    rcases Assoc.mem_put hp with rfl | hp
    · simp
    · rcases Assoc.mem_put hp with rfl | hp
      · simp
      · exact hold (List.mem_append_right _ (List.mem_map_of_mem hp))

/-- Every blob and every manifest that is kept under a SHA-256 digest has that digest. -/
structure Addressed (r : Registry) : Prop where
  blob : r.Hashed
  manifest : ∀ key m, Assoc.lookup key r.manifests = some m →
    key.reference.startsWith "sha256:" = true → sha256Digest m.content = key.reference

/-- The registries have the same blobs, manifests and lists of referrers. -/
structure Agrees (r r' : Registry) : Prop where
  blobs : ∀ key, Assoc.lookup key r.blobs = Assoc.lookup key r'.blobs
  manifests : ∀ key, Assoc.lookup key r.manifests = Assoc.lookup key r'.manifests
  referrers : ∀ key, Assoc.lookup key r.referrers = Assoc.lookup key r'.referrers

/-! ## What is given out for a digest -/

/-- The manifest with the key is given out for a digest of a layer. -/
def Names (repository : Repository) (digest : Text) (key : Key) : Prop :=
  ∃ name reference, query? (repository.path.split '/' ++
      (beforeMarks ("blobs/" ++ digest)).split '/') = some (.manifest name reference) ∧
    key = ⟨repository.registry ++ "/" ++ name, reference⟩

theorem Names.unique {digest : Text} {key key' : Key} (h : Names repository digest key)
    (h' : Names repository digest key') : key = key' := by
  obtain ⟨name, reference, hquery, rfl⟩ := h
  obtain ⟨name', reference', hquery', rfl⟩ := h'
  rw [hquery] at hquery'
  cases hquery'
  rfl

/-- What is kept under the key is read as the content of a layer. -/
theorem Names.readBlob {digest : Text} {key : Key} (h : Names repository digest key)
    (hparsed : repository.Parsed) (hdigest : digest.startsWith "sha256:" = false)
    {m : StoredManifest} (hm : Assoc.lookup key r.manifests = some m) :
    Remote.readBlob repository digest
      (replyTo r (Remote.blobRequest o .get repository digest)) = .ok m.content := by
  obtain ⟨name, reference, hquery, rfl⟩ := h
  rw [replyTo_blob hparsed, hquery]
  dsimp only
  rw [hm, Remote.readBlob_eq_ok_iff]
  refine ⟨rfl, fun hstart => ?_, rfl⟩
  rw [hdigest] at hstart
  cases hstart

/-! ## What stays -/

/-- Blobs stay, and so do manifests but for the given keys, where those under SHA-256 digests may
have been pushed again. -/
structure Extends (only : Key → Prop) (r r' : Registry) : Prop where
  listsReferrers : r'.listsReferrers = r.listsReferrers
  blob : ∀ {key content}, Assoc.lookup key r.blobs = some content →
    Assoc.lookup key r'.blobs = some content
  manifest : ∀ {key m}, Assoc.lookup key r.manifests = some m → ¬ only key →
    ∃ m', Assoc.lookup key r'.manifests = some m' ∧ m'.content = m.content ∧
      (m' = m ∨ m'.mediaType = MediaType.imageManifest)
  unchanged : ∀ {key : Key}, key.reference.startsWith "sha256:" = false → ¬ only key →
    Assoc.lookup key r'.manifests = Assoc.lookup key r.manifests

/-- Everything stays but the tag under which an image is put. -/
theorem extends_withImage (hr : r.Addressed) {placement : Placement} {layers : List Layer}
    {config manifest : Bytes}
    (hdiffer : DigestsDiffer (r.contents ++
      (r.withImage repository placement layers config manifest).contents)) :
    Extends (placement.Tags repository) r
      (r.withImage repository placement layers config manifest) where
  listsReferrers := listsReferrers_withBlobs _
  blob := by
    intro key content hkey
    have hblobs : (r.withImage repository placement layers config manifest).blobs =
        (r.withBlobs repository (config :: layers.map Layer.content)).blobs := rfl
    rw [hblobs, lookup_withBlobs, hkey, Option.some_or]
  manifest := by
    intro key m hkey honly
    rw [withImage, lookup_manifests_keep, manifests_withBlobs]
    split_ifs with hpushed
    · -- What was pushed is kept under its digest, where it was before.
      have hdigest : key = keyOf repository (sha256Digest manifest) := by
        rcases hpushed with hdigest | hreference
        · exact hdigest
        · cases placement with
          | tag tag => exact absurd ⟨tag, rfl, hreference⟩ honly
          | subject d artifactType annotations => exact hreference
      have hnamed := (kept_keep (r.withBlobs repository (config :: layers.map Layer.content))
        repository (placement.reference manifest) (subjectDigest? placement) manifest).named
      have hsame : sha256Digest m.content = sha256Digest manifest := by
        rw [hr.manifest key m hkey (by rw [hdigest]; exact startsWith_sha256Digest manifest),
          hdigest]
      have hcontent : m.content = manifest :=
        hdiffer _ (List.mem_append_left _ (mem_contents_of_manifest hkey)) _
          (List.mem_append_right _ (mem_contents_of_manifest hnamed)) hsame
      exact ⟨_, rfl, hcontent.symm, .inr rfl⟩
    · exact ⟨m, hkey, rfl, .inl rfl⟩
  unchanged := by
    intro key hkey honly
    have hdigest : key ≠ keyOf repository (sha256Digest manifest) := by
      rintro rfl
      rw [startsWith_sha256Digest] at hkey
      cases hkey
    have hreference : key ≠ keyOf repository (placement.reference manifest) := by
      cases placement with
      | tag tag => exact fun heq => honly ⟨tag, rfl, heq⟩
      | subject d artifactType annotations => exact hdigest
    rw [withImage, lookup_manifests_keep, if_neg (by simp [hdigest, hreference]),
      manifests_withBlobs]

/-! ## What holds afterwards -/

section WithImage

variable {placement : Placement} {layers : List Layer} {config manifest : Bytes}

theorem blobs_withImage : (r.withImage repository placement layers config manifest).blobs =
    (r.withBlobs repository (config :: layers.map Layer.content)).blobs := rfl

theorem hashed_withImage (hr : r.Hashed) :
    (r.withImage repository placement layers config manifest).Hashed := by
  intro key content hkey hstart
  rw [blobs_withImage, lookup_withBlobs, Option.or_eq_some_iff] at hkey
  rcases hkey with hkey | ⟨-, hkey⟩
  · exact hr key content hkey hstart
  · have hfound := List.find?_some hkey
    rw [decide_eq_true_eq] at hfound
    rw [← hfound]

/-- Contents that are there are there afterwards. -/
theorem HasContent.withImage {repository' : Repository} {content : Bytes}
    (h : r.HasContent repository' content) :
    (r.withImage repository placement layers config manifest).HasContent repository' content := by
  rw [HasContent, blobs_withImage, lookup_withBlobs, Option.isSome_or, h]
  rfl

/-- The registry keeps an image that is written under a tag. -/
theorem keeps_withImage (h : Renders (.tag tag) layers config manifest) :
    (r.withImage repository (.tag tag) layers config manifest).Keeps repository tag layers
      (.tag tag) where
  manifest := ⟨config, manifest, h.manifest_eq, (kept_keep _ repository tag none manifest).referenced⟩
  blob := by
    intro l hl
    have hhas : (r.withBlobs repository (config :: layers.map Layer.content)).HasContent repository
        l.content := hasContent_withBlobs (List.mem_cons_of_mem config (List.mem_map_of_mem hl))
    exact Option.isSome_iff_exists.1 hhas

/-- Every manifest has the media type of an image. -/
def DefaultTypes (r : Registry) : Prop :=
  ∀ key m, Assoc.lookup key r.manifests = some m → m.mediaType = MediaType.imageManifest

/-- A manifest that is kept afterwards was pushed or was there. -/
theorem manifest_withImage {key : Key} {m : StoredManifest}
    (h : Assoc.lookup key (r.withImage repository placement layers config manifest).manifests =
      some m) : m = { content := manifest } ∨ Assoc.lookup key r.manifests = some m := by
  rw [withImage, lookup_manifests_keep, manifests_withBlobs] at h
  split_ifs at h
  · exact .inl (Option.some.inj h).symm
  · exact .inr h

theorem DefaultTypes.withImage (h : r.DefaultTypes) :
    (r.withImage repository placement layers config manifest).DefaultTypes := by
  intro key m hkey
  rcases manifest_withImage hkey with rfl | hkey
  · rfl
  · exact h key m hkey

/-- Manifests of other repositories are not touched. -/
theorem lookup_manifests_withImage {key : Key} (h : key.repository ≠ repository.toText) :
    Assoc.lookup key (r.withImage repository placement layers config manifest).manifests =
      Assoc.lookup key r.manifests := by
  have hne (reference : Text) : key ≠ keyOf repository reference := by
    rintro rfl
    exact h rfl
  rw [Registry.withImage, lookup_manifests_keep, manifests_withBlobs,
    if_neg (by simp [hne])]

end WithImage

/-! ## What is read afterwards -/

/-- The content of a layer stays, unless it is found under one of the keys. -/
theorem Extends.readBlob (he : Extends only r r') (h : repository.Parsed) {digest : Text}
    (hnames : ∀ key, Names repository digest key → ¬ only key) {content : Bytes}
    (hread : Remote.readBlob repository digest
      (replyTo r (Remote.blobRequest o .get repository digest)) = .ok content) :
    Remote.readBlob repository digest
      (replyTo r' (Remote.blobRequest o .get repository digest)) = .ok content := by
  rw [replyTo_blob h] at hread ⊢
  cases hquery : query? (repository.path.split '/' ++
      (beforeMarks ("blobs/" ++ digest)).split '/') with
  | none =>
    rw [hquery] at hread
    exact hread
  | some q =>
    rw [hquery] at hread
    cases q with
    | upload name => exact hread
    | blob name reference =>
      dsimp only at hread ⊢
      cases hlookup : Assoc.lookup ⟨repository.registry ++ "/" ++ name, reference⟩ r.blobs with
      | none =>
        rw [hlookup, Remote.readBlob_eq_ok_iff] at hread
        exact absurd hread.1 (by simp [answer])
      | some found =>
        rw [hlookup] at hread
        rwa [he.blob hlookup]
    | referrers name reference =>
      dsimp only at hread ⊢
      rwa [he.listsReferrers]
    | manifest name reference =>
      dsimp only at hread ⊢
      cases hlookup : Assoc.lookup ⟨repository.registry ++ "/" ++ name, reference⟩ r.manifests with
      | none =>
        rw [hlookup, Remote.readBlob_eq_ok_iff] at hread
        exact absurd hread.1 (by simp [answer])
      | some m =>
        obtain ⟨m', hlookup', hcontent, -⟩ :=
          he.manifest hlookup (hnames _ ⟨name, reference, hquery, rfl⟩)
        rw [hlookup, Remote.readBlob_eq_ok_iff] at hread
        rw [hlookup', Remote.readBlob_eq_ok_iff]
        simpa [showManifest, hcontent] using hread

theorem Extends.loads (he : Extends only r r') (h : repository.Parsed) {v : Json} {l : Layer}
    (hl : Loads r o repository v l)
    (hnames : ∀ digest, v.members?.bind (Remote.layerText? "digest") = some digest →
      ∀ key, Names repository digest key → ¬ only key) : Loads r' o repository v l := by
  obtain ⟨hmediaType, hdigest, hcontent⟩ := hl
  exact .intro hmediaType hdigest (he.readBlob h (hnames _ hdigest) hcontent)

/-- No layer that the tag image lists is found under one of the keys. -/
def Apart (r : Registry) (repository : Repository) (tag : Text) (only : Key → Prop) : Prop :=
  ∀ digest ∈ r.tagDigests repository tag, ∀ key, Names repository digest key → ¬ only key

/-- The layers under a tag stay if they are apart from what changes. -/
theorem Extends.image (he : Extends only r r') (h : repository.Parsed)
    (htag : Text.startsWith tag "sha256:" = false) (honly : ¬ only (keyOf repository tag))
    (hapart : r.Apart repository tag only) {layers : List Layer}
    (himage : Image r o repository tag layers) : Image r' o repository tag layers := by
  have hsame : Assoc.lookup (keyOf repository tag) r'.manifests =
      Assoc.lookup (keyOf repository tag) r.manifests := he.unchanged htag honly
  cases himage with
  | missing hm => exact .missing (hsame.trans hm)
  | @listed m members items _ hm hread hitems hlayers =>
    rw [Apart, tagDigests_of_read hm hread hitems] at hapart
    refine .listed (hsame.trans hm) hread hitems ?_
    clear hitems
    induction hlayers with
    | nil => exact .nil
    | @cons v l items' layers' hl _ ih =>
      refine .cons (he.loads h hl fun digest hdigest => hapart digest ?_) (ih fun digest hdigest =>
        hapart digest ?_)
      · exact List.mem_filterMap.2 ⟨v, by simp, hdigest⟩
      · obtain ⟨w, hw, hdigest⟩ := List.mem_filterMap.1 hdigest
        exact List.mem_filterMap.2 ⟨w, by simp [hw], hdigest⟩

/-! ## Attempts that are carried over -/

/-- What comes of the attempt in the first registry comes of it in the second one. -/
def Carries {ε α : Type} (r r' : Registry) (attempt : Attempt ε α) : Prop :=
  ∀ ⦃a : α⦄, outcome r attempt = .ok a → outcome r' attempt = .ok a

section Carries

variable {ε ε' α β : Type} {attempt : Attempt ε α}

theorem carries_pure (a : α) : Carries r r' (pure a : Attempt ε α) := fun _ h => h

theorem carries_throw (e : ε) : Carries r r' (throw e : Attempt ε α) := fun _ h => h

theorem carries_ofExcept (res : Except ε α) : Carries r r' (Attempt.ofExcept res) := fun _ h => h

theorem Carries.bind (hreads : Sends Request.Reads attempt) (h : Carries r r' attempt)
    {f : α → Attempt ε β} (hf : ∀ a, outcome r attempt = .ok a → Carries r r' (f a)) :
    Carries r r' (attempt >>= f) := by
  intro b hb
  obtain ⟨a, ha, hb⟩ := (outcome_bind_eq_ok_iff hreads).1 hb
  exact (outcome_bind_eq_ok_iff hreads).2 ⟨a, h ha, hf a ha hb⟩

theorem Carries.mapError (h : Carries r r' attempt) (f : ε → ε') :
    Carries r r' (attempt.mapError f) := by
  intro a ha
  rw [Attempt.mapError, outcome_recover] at ha ⊢
  cases hresult : outcome r attempt with
  | error e =>
    rw [hresult] at ha
    cases ha
  | ok found =>
    rw [hresult] at ha
    rw [h hresult]
    exact ha

end Carries

end Registry
end Signet
