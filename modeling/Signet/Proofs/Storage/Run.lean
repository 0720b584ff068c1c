import Mathlib
import Signet.Proofs.Storage.Attached
import Signet.Proofs.Storage.Kept

/-!
# Runs of stores

Any number of stores, of any kind and format and for any artifacts, succeed or fail one after
the other. What an artifact is resolved with afterwards is what it was resolved with before,
and behind that the layers of its own successful stores in the oldest format, each of them
unless a layer that is alike is there.

The invariant is that the tag image of the artifact holds these layers: a store of the
artifact extends it, and every other store leaves its tag alone and takes no blob away.

## Main definitions

* `Storing.runAll` — the run of a list of stores.
* `Storing.attached` — the layers that a run attaches to an artifact.
* `Storing.Holds` — the invariant.
-/
namespace Signet
namespace Storing

open Registry (Grows Image keyOf outcome)

/-! ## Runs -/

/-- A store with the client that it uses. -/
structure Call where
  remote : RemoteOptions
  options : StoreOptions
  request : StoreRequest

abbrev Call.run (c : Call) (r : Registry) : Session.Run Registry (Except StoreFailure Unit) :=
  runStore Registry.serve c.remote c.options c.request r

/-- The registry after stores that run one after the other, and what comes of each of them. -/
def runAll : List Call → Registry → Registry × List (Call × Except StoreFailure Unit)
  | [], r => (r, [])
  | c :: rest, r =>
    let (final, results) := runAll rest (c.run r).state
    (final, (c, (c.run r).result) :: results)

theorem state_runAll_singleton (c : Call) (r : Registry) :
    (runAll [c] r).1 = (c.run r).state := rfl

/-- The layer that a store attaches to the artifact, if it is a store of the artifact and the
kind in the oldest format and succeeded. -/
def attached? (artifact : Artifact) (kind : Kind) :
    Call × Except StoreFailure Unit → Option Layer
  | (c, result) =>
    if Format.routed c.options.format = .legacy ∧ c.request.artifact = artifact ∧
        c.request.kind = kind ∧ result = .ok () then
      (c.request.material.layer kind).toOption
    else none

/-- The layers that stores attach to the artifact, in the order of the stores. -/
def attached (artifact : Artifact) (kind : Kind)
    (results : List (Call × Except StoreFailure Unit)) : List Layer :=
  results.filterMap (attached? artifact kind)

/-- No two of the layers have one digest for different contents. -/
def CollisionFree (layers : List Layer) : Prop :=
  ∀ l ∈ layers, ∀ l' ∈ layers, l.digest = l'.digest → l.content = l'.content

/-- Without collisions layers that match have the same contents. -/
theorem map_content_of_allMatch {layers layers' : List Layer}
    (h : Layer.AllMatch layers layers') (hfree : CollisionFree (layers ++ layers')) :
    layers'.map Layer.content = layers.map Layer.content := by
  induction h with
  | nil => rfl
  | @cons l l' rest rest' hl hrest ih =>
    have hcontent : l'.content = l.content := hfree l' (by simp) l (by simp) hl.digest
    have hfree' : CollisionFree (rest ++ rest') := by
      intro a ha b hb
      refine hfree a ?_ b ?_
      · rcases List.mem_append.1 ha with ha | ha <;> simp [ha]
      · rcases List.mem_append.1 hb with hb | hb <;> simp [hb]
    rw [List.map_cons, List.map_cons, hcontent, ih hfree']

/-! ## The invariant -/

variable {r r' : Registry} {artifact : Artifact} {kind : Kind} {tag : Text} {layers : List Layer}

/-- The tag of the artifact holds the layers, and nothing else is read in their place. -/
structure Holds (r : Registry) (artifact : Artifact) (tag : Text) (layers : List Layer) :
    Prop where
  hashed : r.Hashed
  known : ∃ m, Assoc.lookup (keyOf artifact.repository artifact.digest) r.manifests = some m ∧
    Registry.Describable artifact.repository artifact.digest m
  confined : r.Confined artifact.repository tag
  image : ∀ o, ∃ layers', Image r o artifact.repository tag layers' ∧
    Layer.AllMatch layers layers'

/-- The layers are held while the tag does not change. -/
theorem Holds.grow {only : Registry.Key → Prop} (h : Holds r artifact tag layers)
    (hparsed : artifact.repository.Parsed) (hg : Grows only r r')
    (hsame : Assoc.lookup (keyOf artifact.repository tag) r'.manifests =
      Assoc.lookup (keyOf artifact.repository tag) r.manifests) :
    Holds r' artifact tag layers where
  hashed := hg.hashed
  known := hg.describable h.known
  confined := h.confined.congr hsame
  image := by
    intro o
    obtain ⟨layers', himage, hmatch⟩ := h.image o
    obtain ⟨layers'', himage', hmatch'⟩ := himage.grow hg hparsed o h.confined hsame
    exact ⟨layers'', himage', hmatch.trans hmatch'⟩

/-- A successful store of the artifact and the kind extends the layers. -/
theorem Holds.extend {c : Call} (h : Holds r artifact tag layers) (hparsed : artifact.Parsed)
    (htag : artifact.tag? kind.suffix = some tag) (hartifact : c.request.artifact = artifact)
    (hkind : c.request.kind = kind) (hrepository : c.options.repository = none)
    {base : List Layer} {layer : Layer}
    (hextended : Extended c.remote c.options c.request r r' tag base layer) :
    Holds r' artifact tag (layer.appendTo layers) := by
  have htarget : target c.options c.request = artifact.repository := by
    rw [target, hrepository, hartifact]
    rfl
  have hwhole := Remote.whole_tag hparsed (whole_suffix kind) htag
  have hresolved := hextended.resolved
  rw [hartifact, hkind] at hresolved
  obtain ⟨m, hm, -⟩ := h.known
  obtain ⟨-, hbase⟩ := (resolves_iff hparsed htag hm).1 hresolved
  refine ⟨hextended.grows.hashed, hextended.grows.describable h.known, ?_, fun o => ?_⟩
  · rw [← htarget]
    exact hextended.keeps.confined
  · obtain ⟨layers', himage, hmatch⟩ := h.image o
    obtain rfl := himage.unique hparsed.repository hwhole hbase
    obtain ⟨new, hnew, hmatch'⟩ := hextended.image (hartifact ▸ hparsed)
      (htarget ▸ hparsed.repository) o
    rw [htarget] at hnew
    exact ⟨new, hnew, (hmatch.appendTo layer).trans hmatch'⟩

/-- Tags of different artifacts or kinds are different. -/
theorem keyOf_tag_injective {artifact' : Artifact} {kind' : Kind} {tag' : Text}
    (hparsed : artifact.Parsed) (hparsed' : artifact'.Parsed)
    (htag : artifact.tag? kind.suffix = some tag)
    (htag' : artifact'.tag? kind'.suffix = some tag')
    (h : keyOf artifact'.repository tag' = keyOf artifact.repository tag) :
    artifact' = artifact ∧ kind' = kind := by
  obtain ⟨hname, rfl⟩ := Registry.Key.mk.inj h
  obtain ⟨hdigest, hsuffix⟩ := hparsed'.tag?_injective hparsed (htag'.trans htag.symm)
  have hrepository := hparsed'.repository.toText_injective hparsed.repository hname
  refine ⟨?_, ?_⟩
  · cases artifact
    cases artifact'
    cases hrepository
    cases hdigest
    rfl
  · cases kind <;> cases kind' <;> first | rfl | exact absurd hsuffix (by decide)

theorem attached?_eq_none {c : Call} {result : Except StoreFailure Unit}
    (h : ¬ (Format.routed c.options.format = .legacy ∧ c.request.artifact = artifact ∧
      c.request.kind = kind ∧ result = .ok ())) : attached? artifact kind (c, result) = none :=
  if_neg h

/-- What one store does to the layers that are held. -/
theorem Holds.step {c : Call} (h : Holds r artifact tag layers) (hparsed : artifact.Parsed)
    (htag : artifact.tag? kind.suffix = some tag) (hcall : c.request.artifact.Parsed)
    (hrepository : c.options.repository = none) :
    Holds (c.run r).state artifact tag
      (extended layers (attached? artifact kind (c, (c.run r).result)).toList) := by
  have htarget : target c.options c.request = c.request.artifact.repository := by
    rw [target, hrepository]
    rfl
  have hwritable : (target c.options c.request).Parsed := htarget ▸ hcall.repository
  rcases store_cases c.remote h.hashed hcall hwritable with
    ⟨hnot, hgrows⟩ | ⟨hsucceeds, tag', base, layer, hextended⟩
  · -- No tag changes, and nothing is attached.
    have hnone : attached? artifact kind (c, (c.run r).result) = none :=
      attached?_eq_none fun hall => hnot ⟨hall.1, hall.2.2.2⟩
    rw [hnone]
    exact h.grow hparsed.repository hgrows
      (hgrows.tagged (hparsed.startsWith_tag htag) fun hfalse => hfalse)
  · by_cases hown : c.request.artifact = artifact ∧ c.request.kind = kind
    · obtain ⟨hartifact, hkind⟩ := hown
      have hsame : tag' = tag := by
        have htag' := hextended.tagged
        rw [hartifact, hkind, htag] at htag'
        exact (Option.some.inj htag').symm
      subst hsame
      have hbuilt := hextended.built
      rw [hkind] at hbuilt
      have hsome : attached? artifact kind (c, (c.run r).result) = some layer := by
        rw [attached?, if_pos ⟨hsucceeds.1, hartifact, hkind, hsucceeds.2⟩, hbuilt]
        rfl
      rw [hsome]
      exact h.extend hparsed htag hartifact hkind hrepository hextended
    · have hnone : attached? artifact kind (c, (c.run r).result) = none :=
        attached?_eq_none fun hall => hown ⟨hall.2.1, hall.2.2.1⟩
      rw [hnone]
      refine h.grow hparsed.repository hextended.grows
        (hextended.grows.tagged (hparsed.startsWith_tag htag) fun hkey => hown ?_)
      rw [htarget] at hkey
      exact keyOf_tag_injective hparsed hcall htag hextended.tagged hkey.symm

theorem attached_cons (x : Call × Except StoreFailure Unit)
    (results : List (Call × Except StoreFailure Unit)) :
    attached artifact kind (x :: results) =
      (attached? artifact kind x).toList ++ attached artifact kind results := by
  rw [attached, List.filterMap_cons]
  cases attached? artifact kind x <;> rfl

/-- A run extends the layers by what its stores attach. -/
theorem Holds.run {calls : List Call} (h : Holds r artifact tag layers) (hparsed : artifact.Parsed)
    (htag : artifact.tag? kind.suffix = some tag)
    (hcalls : ∀ c ∈ calls, c.request.artifact.Parsed ∧ c.options.repository = none) :
    Holds (runAll calls r).1 artifact tag
      (extended layers (attached artifact kind (runAll calls r).2)) := by
  induction calls generalizing r layers with
  | nil => exact h
  | cons c rest ih =>
    obtain ⟨hcall, hrepository⟩ := hcalls c (by simp)
    have hrest := ih (h.step hparsed htag hcall hrepository) fun c' hc' => hcalls c' (by simp [hc'])
    rw [runAll, attached_cons, extended, List.foldl_append]
    exact hrest

/-- A run accumulates layers without loss or duplication. An artifact whose manifest is there,
and whose tag image names no manifest as a layer, is resolved after any run with the layers
that it was resolved with before, and behind them those of its own successful stores in the
oldest format, each of them unless a layer that is alike is there. Bytes are taken to be fewer
than `2 ^ 63`, so that the length of the manifest can be read. -/
theorem run_accumulates (r : Registry) (hr : r.Hashed) {reference : Text} (artifact : Artifact)
    (hparse : Artifact.parse reference = .ok artifact) (kind : Kind) (o o' : RemoteOptions)
    (layers : List Layer)
    (hpresent : ∃ m, Assoc.lookup (keyOf artifact.repository artifact.digest) r.manifests = some m)
    (hresolves : Resolves r o artifact kind layers)
    (hconfined : ∀ tag, artifact.tag? kind.suffix = some tag → r.Confined artifact.repository tag)
    (calls : List Call)
    (hcalls : ∀ c ∈ calls, c.options.repository = none ∧
      ∃ reference, Artifact.parse reference = .ok c.request.artifact)
    (hlength : ∀ m, Assoc.lookup (keyOf artifact.repository artifact.digest)
      (runAll calls r).1.manifests = some m → m.content.length < 2 ^ 63) :
    ∃ final, Resolves (runAll calls r).1 o' artifact kind final ∧
      Layer.AllMatch (extended layers (attached artifact kind (runAll calls r).2)) final ∧
      (CollisionFree (extended layers (attached artifact kind (runAll calls r).2) ++ final) →
        final.map Layer.content =
          (extended layers (attached artifact kind (runAll calls r).2)).map Layer.content) := by
  have hparsed := Artifact.parsed_of_parse hparse
  obtain ⟨tag, htag⟩ := hparsed.exists_tag kind.suffix
  obtain ⟨m, hm⟩ := hpresent
  obtain ⟨hdescribe, himage⟩ := (resolves_iff hparsed htag hm).1 hresolves
  have hholds : Holds r artifact tag layers :=
    ⟨hr, ⟨m, hm, .inr hdescribe⟩, hconfined tag htag,
      fun o' => ⟨layers, himage.withOptions hparsed.repository o', .refl _⟩⟩
  obtain ⟨-, ⟨m', hm', hdescribable⟩, -, hread⟩ := hholds.run hparsed htag
    fun c hc => ⟨Artifact.parsed_of_parse (hcalls c hc).2.choose_spec, (hcalls c hc).1⟩
  have hdescribe' : ∃ descriptor,
      Registry.describe artifact.repository artifact.digest (some m') = .ok descriptor := by
    rcases hdescribable with hpushed | hdescribe'
    · exact Registry.describe_eq_ok hpushed (hlength m' hm')
    · exact hdescribe'
  obtain ⟨final, himage', hmatch⟩ := hread o'
  exact ⟨final, (resolves_iff hparsed htag hm').2 ⟨hdescribe', himage'⟩, hmatch,
    map_content_of_allMatch hmatch⟩

/-- A registry with nothing but the manifest of the artifact. -/
def unsigned : Registry :=
  { manifests :=
      [(keyOf sampleArtifact.repository sampleArtifact.digest, { content := encoded "\x7b\x7d" })] }

/-- The store of a signature of the artifact. -/
def sampleCall : Call := ⟨{}, {}, sampleRequest⟩

theorem lookup_unsigned :
    Assoc.lookup (keyOf sampleArtifact.repository sampleArtifact.digest) unsigned.manifests =
        some { content := encoded "\x7b\x7d" } ∧
      Assoc.lookup (keyOf sampleArtifact.repository sampleTag) unsigned.manifests = none :=
  ⟨if_pos rfl, if_neg (digest_ne_sampleTag _)⟩

theorem resolves_unsigned : Resolves unsigned {} sampleArtifact .signature [] :=
  (resolves_iff parsed_sampleArtifact tag_sampleRequest lookup_unsigned.1).2
    ⟨Registry.describe_eq_ok rfl (by decide), .missing lookup_unsigned.2⟩

theorem store_unsigned :
    (sampleCall.run unsigned).result = .ok () ∧ (sampleCall.run unsigned).state =
      putImage unsigned ⟨sampleArtifact.repository, [signatureLayer], .tag sampleTag⟩
        signatureConfig signatureManifest :=
  store_signature rfl parsed_sampleArtifact rfl parsed_sampleArtifact.repository tag_sampleRequest
    resolves_unsigned (by decide) (by decide)

theorem run_accumulates_unsigned :
    Resolves unsigned {} sampleArtifact .signature [] ∧
      ∃ final, Resolves (runAll [sampleCall] unsigned).1 {} sampleArtifact .signature final ∧
        Layer.AllMatch
          (extended [] (attached sampleArtifact .signature (runAll [sampleCall] unsigned).2))
          final := by
  have hashed : unsigned.Hashed := by
    intro key content h
    cases h
  have hconfined (tag : Text) (htag : sampleArtifact.tag? Kind.signature.suffix = some tag) :
      unsigned.Confined sampleArtifact.repository tag := by
    obtain rfl : sampleTag = tag := Option.some.inj (tag_sampleRequest.symm.trans htag)
    have hnone : unsigned.tagDigests sampleArtifact.repository sampleTag = [] := by
      rw [Registry.tagDigests, lookup_unsigned.2]
      rfl
    rw [Registry.Confined, hnone]
    simp
  have hcalls : ∀ c ∈ [sampleCall], c.options.repository = none ∧
      ∃ reference, Artifact.parse reference = .ok c.request.artifact := by
    intro c hc
    rw [List.mem_singleton.1 hc]
    exact ⟨rfl, _, parse_sampleReference⟩
  have hlength (m : StoredManifest)
      (hm : Assoc.lookup (keyOf sampleArtifact.repository sampleArtifact.digest)
        (runAll [sampleCall] unsigned).1.manifests = some m) : m.content.length < 2 ^ 63 := by
    rw [state_runAll_singleton, store_unsigned.2] at hm
    rcases Registry.manifest_withImage hm with rfl | hm
    · exact canonical_signatureManifest.2.1
    · cases hm
      decide
  obtain ⟨final, hfinal, hmatch, -⟩ := run_accumulates unsigned hashed sampleArtifact
    parse_sampleReference .signature {} {} [] ⟨_, rfl⟩ resolves_unsigned hconfined [sampleCall]
    hcalls hlength
  exact ⟨resolves_unsigned, final, hfinal, hmatch⟩

/-! ## A layer that is replaced -/

/-- The layer that is read where a content is found under a key. -/
def found (content : Bytes) : Layer := { mediaType := "m", content }

/-- A tag image whose one layer has the digest. -/
def naming (digest : Text) : Json :=
  .object [("layers", .array [.object [("mediaType", "m"), ("digest", .text digest)]])]

/-- A layer that is looked up among the manifests is what is found there. -/
theorem resolves_naming {remote : RemoteOptions} {digest : Text} {key : Registry.Key}
    {content image : Bytes} {m : StoredManifest} (hparsed : artifact.Parsed)
    (htag : artifact.tag? kind.suffix = some tag)
    (hartifact : Assoc.lookup (keyOf artifact.repository artifact.digest) r.manifests = some m)
    (hdescribed : ∃ descriptor, Registry.describe artifact.repository artifact.digest
      (some m) = .ok descriptor)
    (himage : Assoc.lookup (keyOf artifact.repository tag) r.manifests = some { content := image })
    (hread : Json.readBytes image = .ok (naming digest)) (hdigest : digest ≠ [])
    (hstart : digest.startsWith "sha256:" = false)
    (hnames : Registry.Names artifact.repository digest key)
    (hkey : Assoc.lookup key r.manifests = some { content }) :
    Resolves r remote artifact kind [found content] := by
  have hloads : Registry.Loads r remote artifact.repository
      (.object [("mediaType", "m"), ("digest", .text digest)]) (found content) := by
    refine .intro rfl ?_ (hnames.readBlob hparsed.repository hstart hkey)
    cases digest with
    | nil => exact absurd rfl hdigest
    | cons c t => rfl
  exact (resolves_iff hparsed htag hartifact).2
    ⟨hdescribed, .listed himage hread rfl (.cons hloads .nil)⟩

/-- The reference of an artifact whose repository is named like a blob of another one. -/
def otherReference : Text :=
  "r.io/a/blobs/x@sha256:bbbbbbbbbbbbbbbbbbbbbbbbbbbbbbbbbbbbbbbbbbbbbbbbbbbbbbbbbbbbbbbb"

def otherArtifact : Artifact := ⟨⟨"r.io", "a/blobs/x"⟩, otherReference.drop 15⟩

/-- The tag of its signatures. -/
def otherTag : Text := "sha256-bbbbbbbbbbbbbbbbbbbbbbbbbbbbbbbbbbbbbbbbbbbbbbbbbbbbbbbbbbbbbbbb.sig"

/-- The store of a signature of it. -/
def otherCall : Call :=
  ⟨{}, {}, { sampleRequest with artifact := otherArtifact }⟩

/-- The manifest under that tag, as it is read as a layer. -/
def misread : Layer := { mediaType := "m", content := encoded "\x7b\"layers\":[]\x7d" }

/-- The tag image of the first artifact names the tag of the other one as a layer. -/
def misdirected : Registry :=
  { manifests :=
      [(keyOf sampleArtifact.repository sampleArtifact.digest, { content := encoded "\x7b\x7d" }),
       (keyOf sampleArtifact.repository sampleTag,
        { content := encoded ("\x7b\"layers\":[\x7b\"mediaType\":\"m\",\"digest\":\"x/manifests/" ++
            otherTag ++ "\"\x7d]\x7d") }),
       (keyOf otherArtifact.repository otherTag, { content := misread.content })] }

theorem parse_otherReference : Artifact.parse otherReference = .ok otherArtifact ∧
    otherArtifact.tag? Kind.signature.suffix = some otherTag := by
  decide +kernel

theorem parsed_otherArtifact : otherArtifact.Parsed :=
  Artifact.parsed_of_parse parse_otherReference.1

/-- The manifest that the layer of the tag image names. -/
theorem names_otherTag : Registry.Names sampleArtifact.repository ("x/manifests/" ++ otherTag)
    (keyOf otherArtifact.repository otherTag) :=
  ⟨otherArtifact.repository.path, otherTag, rfl, rfl⟩

theorem read_misdirected :
    Json.readBytes (encoded ("\x7b\"layers\":[\x7b\"mediaType\":\"m\",\"digest\":\"x/manifests/" ++
      otherTag ++ "\"\x7d]\x7d")) = .ok (naming ("x/manifests/" ++ otherTag)) := by
  cbv

/-- The layer is what the other repository has under the tag. -/
theorem resolves_other {r' : Registry} {content : Bytes}
    (hsame : ∀ reference, Assoc.lookup (keyOf sampleArtifact.repository reference) r'.manifests =
      Assoc.lookup (keyOf sampleArtifact.repository reference) misdirected.manifests)
    (hother : Assoc.lookup (keyOf otherArtifact.repository otherTag) r'.manifests =
      some { content }) : Resolves r' {} sampleArtifact .signature [found content] :=
  resolves_naming parsed_sampleArtifact tag_sampleRequest (hsame _)
    (Registry.describe_eq_ok rfl (by decide)) (hsame _) read_misdirected (by decide)
    (by decide) names_otherTag hother

theorem resolves_misdirected : Resolves misdirected {} sampleArtifact .signature [misread] :=
  resolves_other (fun _ => rfl) rfl

theorem resolves_otherArtifact : Resolves misdirected {} otherArtifact .signature [] :=
  (resolves_iff_of_missing parsed_otherArtifact rfl).2 rfl

theorem store_misdirected : (otherCall.run misdirected).state =
    putImage misdirected ⟨otherArtifact.repository, [signatureLayer], .tag otherTag⟩
      signatureConfig signatureManifest :=
  (store_signature (o := {}) rfl parsed_otherArtifact rfl parsed_otherArtifact.repository
    parse_otherReference.2 resolves_otherArtifact (by decide) (by decide)).2

theorem resolves_withOther :
    Resolves (runAll [otherCall] misdirected).1 {} sampleArtifact .signature
      [found signatureManifest] := by
  have hne : sampleArtifact.repository.toText ≠ otherArtifact.repository.toText := by decide
  rw [state_runAll_singleton, store_misdirected]
  exact resolves_other (fun _ => lookup_manifests_putImage hne)
    (Registry.kept_keep _ _ _ _ _).referenced

theorem digest_signatureManifest : sha256Digest signatureManifest ≠ misread.digest := by
  rw [canonical_signatureManifest.2.2]
  decide +kernel

/-- If a layer of the tag image is looked up among the manifests, the store of another artifact
may replace it. -/
theorem layer_replaced :
    ¬ ∀ (r : Registry) (reference : Text) (artifact : Artifact) (kind : Kind)
      (o o' : RemoteOptions) (layers : List Layer) (calls : List Call), r.Hashed →
      Artifact.parse reference = .ok artifact →
      (∃ m, Assoc.lookup (keyOf artifact.repository artifact.digest) r.manifests = some m) →
      Resolves r o artifact kind layers →
      (∀ c ∈ calls, c.options.repository = none ∧
        ∃ reference, Artifact.parse reference = .ok c.request.artifact) →
      ∃ final, Resolves (runAll calls r).1 o' artifact kind final ∧
        Layer.AllMatch (extended layers (attached artifact kind (runAll calls r).2)) final := by
  intro h
  have hashed : misdirected.Hashed := by
    intro key content h
    cases h
  have hcalls : ∀ c ∈ [otherCall], c.options.repository = none ∧
      ∃ reference, Artifact.parse reference = .ok c.request.artifact := by
    intro c hc
    rw [List.mem_singleton.1 hc]
    exact ⟨rfl, _, parse_otherReference.1⟩
  obtain ⟨final, ⟨entity, hentity, rfl⟩, hmatch⟩ := h misdirected sampleReference sampleArtifact
    .signature {} {} [misread] [otherCall] hashed parse_sampleReference ⟨_, rfl⟩
    resolves_misdirected hcalls
  have hother : otherArtifact ≠ sampleArtifact := by decide
  have hnone : attached? sampleArtifact .signature
      (otherCall, (otherCall.run misdirected).result) = none :=
    attached?_eq_none fun hall => hother hall.2.1
  have hattached : attached sampleArtifact .signature (runAll [otherCall] misdirected).2 = [] := by
    rw [runAll, attached_cons, hnone]
    rfl
  rw [hattached] at hmatch
  -- Now the manifest of the other signature is under the tag.
  obtain ⟨entity', hentity', hlayers⟩ := resolves_withOther
  obtain rfl : entity = entity' := Except.ok.inj (hentity.symm.trans hentity')
  rw [hlayers] at hmatch
  cases hmatch with
  | cons hl hrest => exact digest_signatureManifest hl.digest

end Storing
end Signet
