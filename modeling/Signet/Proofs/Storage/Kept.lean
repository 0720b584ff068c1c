import Mathlib
import Signet.Proofs.Storage.Outcome

/-!
# What a store keeps of a tag image

A store in the oldest format reads the repository of the artifact, and only if the artifact is
there, but it writes to the repository that may take its place. Layers that were under the
tag stay there exactly if they were resolved or are the new layer. So all of them stay if the
artifact is there and its own repository is written to; otherwise they may be lost.
-/
namespace Signet
namespace Storing

open Registry (Image keyOf outcome)

variable {r : Registry} {o : StoreOptions} {q : StoreRequest} {remote reader : RemoteOptions}
  {tag : Text}

/-- A reader finds the layers under the tag. -/
abbrev Finds (r : Registry) (reader : RemoteOptions) (repository : Repository) (tag : Text)
    (layers : List Layer) : Prop :=
  outcome r (Remote.loadLayers reader repository tag) = .ok layers

/-- What a store extends: the layers under the tag in the repository of the artifact, none if
the manifest of the artifact is not there. -/
inductive Base (r : Registry) (reader : RemoteOptions) (artifact : Artifact) (tag : Text) :
    List Layer → Prop where
  | missing (h : Assoc.lookup (keyOf artifact.repository artifact.digest) r.manifests = none) :
    Base r reader artifact tag []
  | present {m : StoredManifest} {layers : List Layer}
    (h : Assoc.lookup (keyOf artifact.repository artifact.digest) r.manifests = some m)
    (hfinds : Finds r reader artifact.repository tag layers) : Base r reader artifact tag layers

/-- The layers that an artifact is resolved with are what a store extends. -/
theorem base_of_resolves {artifact : Artifact} {kind : Kind} {layers : List Layer}
    (h : artifact.Parsed) (htag : artifact.tag? kind.suffix = some tag)
    (hresolves : Resolves r remote artifact kind layers) (reader : RemoteOptions) :
    Base r reader artifact tag layers := by
  cases hm : Assoc.lookup (keyOf artifact.repository artifact.digest) r.manifests with
  | none =>
    obtain rfl := (resolves_iff_of_missing h hm).1 hresolves
    exact .missing hm
  | some m =>
    have hwhole := Remote.whole_tag h (whole_suffix kind) htag
    obtain ⟨-, himage⟩ := (resolves_iff h htag hm).1 hresolves
    exact .present hm ((Registry.outcome_loadLayers_eq_ok_iff h.repository hwhole).2
      (himage.withOptions h.repository reader))

/-- The repository that is written to is a parsed one. -/
theorem parsed_target (hartifact : q.artifact.Parsed)
    (hoverride : ∀ repository, o.repository = some repository →
      ∃ name, Repository.parse name = .ok repository) : (target o q).Parsed := by
  rw [target]
  cases hrepository : o.repository with
  | none => exact hartifact.repository
  | some repository =>
    obtain ⟨name, hname⟩ := hoverride repository hrepository
    exact Repository.parsed_of_parse hname

/-- Layers that match some of the layers match some of the layers that match these. -/
theorem exists_matches_iff {layers layers' : List Layer} (h : Layer.AllMatch layers layers')
    (l : Layer) : (∃ l' ∈ layers', l.Matches l') ↔ ∃ l' ∈ layers, l.Matches l' := by
  induction h with
  | nil => rfl
  | @cons a b rest rest' hab _ ih =>
    simp only [List.mem_cons, exists_eq_or_imp, ih]
    exact or_congr_left ⟨fun hl => hl.trans hab.symm, fun hl => hl.trans hab⟩

/-- After a successful store in the oldest format, the tag holds what was resolved and the new
layer. So the layers that were there before are kept exactly if they were resolved or are the
new layer, in particular if the artifact is there and its repository is written to. -/
theorem layers_kept_iff (r : Registry) (hr : r.Hashed) (remote : RemoteOptions) (o : StoreOptions)
    (q : StoreRequest) {reference : Text} (hparse : Artifact.parse reference = .ok q.artifact)
    (hoverride : ∀ repository, o.repository = some repository →
      ∃ name, Repository.parse name = .ok repository)
    (hsucceeds : Succeeds remote o q r) (reader : RemoteOptions) (tag : Text)
    (htag : q.artifact.tag? q.kind.suffix = some tag) (old : List Layer)
    (hold : Finds r reader (target o q) tag old) :
    ∃ layer base new, q.material.layer q.kind = .ok layer ∧ Base r reader q.artifact tag base ∧
      Finds (runStore Registry.serve remote o q r).state reader (target o q) tag new ∧
      Layer.AllMatch (layer.appendTo base) new ∧ (∃ l ∈ new, l.alike layer = true) ∧
      ((∀ l ∈ old, ∃ l' ∈ new, l.Matches l') ↔
        ∀ l ∈ old, ∃ l' ∈ layer.appendTo base, l.Matches l') ∧
      (target o q = q.artifact.repository →
        Assoc.lookup (keyOf q.artifact.repository q.artifact.digest) r.manifests ≠ none →
        ∀ l ∈ old, ∃ l' ∈ new, l.Matches l') := by
  have hartifact := Artifact.parsed_of_parse hparse
  have htarget := parsed_target hartifact hoverride
  have hwhole := Remote.whole_tag hartifact (whole_suffix q.kind) htag
  rcases store_cases remote hr hartifact htarget with
    ⟨hnot, -⟩ | ⟨-, tag', base, layer, hextended⟩
  · exact absurd hsucceeds hnot
  obtain rfl : tag' = tag := Option.some.inj (hextended.tagged.symm.trans htag)
  obtain ⟨new, hnew, hmatch⟩ := hextended.image hartifact htarget reader
  have hbase := base_of_resolves hartifact htag hextended.resolved reader
  have hkept : (∀ l ∈ old, ∃ l' ∈ new, l.Matches l') ↔
      ∀ l ∈ old, ∃ l' ∈ layer.appendTo base, l.Matches l' :=
    forall₂_congr fun l _ => exists_matches_iff hmatch l
  refine ⟨layer, base, new, hextended.built, hbase,
    (Registry.outcome_loadLayers_eq_ok_iff htarget hwhole).2 hnew, hmatch, ?_, hkept, ?_⟩
  · have hany := hmatch.any_alike layer
    rw [Layer.any_alike_appendTo] at hany
    simpa using hany
  · intro hsame hpresent
    rw [hkept]
    intro l hl
    cases hbase with
    | missing hm => exact absurd hm hpresent
    | present hm hfinds =>
      -- The layers that were resolved are those that were under the tag.
      rw [hsame, Finds, hfinds] at hold
      obtain rfl := Except.ok.inj hold
      exact ⟨l, Layer.mem_appendTo hl, .refl l⟩

/-! ## A layer that is lost -/

/-- The repository that is used instead of that of the artifact. -/
def sampleOverride : Repository := ⟨"r.io", "s"⟩

def sampleLayer : Layer := { mediaType := "m", content := [111] }

/-- The artifact is there, and another repository keeps a layer under its tag. -/
def keptElsewhere : Registry :=
  { blobs := [(keyOf sampleOverride sampleLayer.digest, sampleLayer.content)]
    manifests :=
      [(keyOf sampleArtifact.repository sampleArtifact.digest, { content := encoded "\x7b\x7d" }),
       (keyOf sampleOverride sampleTag,
        { content := encoded ("\x7b\"layers\":[\x7b\"mediaType\":\"m\",\"digest\":\"" ++
            sampleLayer.digest ++ "\"\x7d]\x7d") })] }

theorem hashed_keptElsewhere : keptElsewhere.Hashed := by
  intro key content h hstart
  have hmem := Assoc.mem_of_lookup_eq_some h
  simp only [keptElsewhere, List.mem_singleton, Prod.mk.injEq] at hmem
  obtain ⟨rfl, rfl⟩ := hmem
  rfl

/-- The other repository is written to. -/
def elsewhere : StoreOptions := { repository := some sampleOverride }

theorem finds_keptElsewhere :
    Finds keptElsewhere {} (target elsewhere sampleRequest) sampleTag [sampleLayer] := by
  decide +kernel

/-- The artifact has no signatures in its own repository. -/
theorem resolves_keptElsewhere : Resolves keptElsewhere {} sampleArtifact .signature [] := by
  have hother : keyOf sampleOverride sampleTag ≠ keyOf sampleArtifact.repository sampleTag := by
    intro h
    exact absurd (Registry.Key.mk.inj h).1 (by decide)
  have hmissing : Assoc.lookup (keyOf sampleArtifact.repository sampleTag)
      keptElsewhere.manifests = none :=
    (if_neg (digest_ne_sampleTag _)).trans (if_neg hother)
  have hpresent : Assoc.lookup (keyOf sampleArtifact.repository sampleArtifact.digest)
      keptElsewhere.manifests = some { content := encoded "\x7b\x7d" } := if_pos rfl
  exact (resolves_iff parsed_sampleArtifact tag_sampleRequest hpresent).2
    ⟨Registry.describe_eq_ok rfl (by decide), .missing hmissing⟩

theorem parse_override : Repository.parse "r.io/s" = .ok sampleOverride := by
  decide +kernel

theorem parse_sampleOverride (repository : Repository)
    (h : elsewhere.repository = some repository) :
    ∃ name, Repository.parse name = .ok repository := by
  cases h
  exact ⟨"r.io/s", parse_override⟩

theorem store_keptElsewhere :
    (runStore Registry.serve {} elsewhere sampleRequest keptElsewhere).result = .ok () ∧
      (runStore Registry.serve {} elsewhere sampleRequest keptElsewhere).state =
        putImage keptElsewhere ⟨sampleOverride, [signatureLayer], .tag sampleTag⟩ signatureConfig
          signatureManifest :=
  store_signature rfl parsed_sampleArtifact rfl (Repository.parsed_of_parse parse_override)
    tag_sampleRequest resolves_keptElsewhere (by decide) (by decide)

/-- What the other repository has under the tag afterwards. -/
theorem finds_signature : ∃ new,
    Finds (runStore Registry.serve {} elsewhere sampleRequest keptElsewhere).state {}
      sampleOverride sampleTag new ∧ Layer.AllMatch [signatureLayer] new := by
  have hoverride : sampleOverride.Parsed := Repository.parsed_of_parse parse_override
  have hsound : ∀ l ∈ [signatureLayer], l.Sound := by
    intro l hl
    rw [List.mem_singleton.1 hl]
    exact sound_of_built built_signature
  obtain ⟨new, hnew, hmatch⟩ :=
    (Registry.keeps_withImage (renders_signature sampleTag)).image
      (Registry.hashed_withImage hashed_keptElsewhere) hoverride hsound {}
  refine ⟨new, ?_, hmatch⟩
  rw [store_keptElsewhere.2]
  exact (Registry.outcome_loadLayers_eq_ok_iff hoverride
    (Remote.whole_tag parsed_sampleArtifact (whole_suffix _) tag_sampleRequest)).2 hnew

theorem layers_kept_iff_elsewhere :
    Succeeds {} elsewhere sampleRequest keptElsewhere ∧
      ∃ layer base new, sampleRequest.material.layer .signature = .ok layer ∧
        Base keptElsewhere {} sampleArtifact sampleTag base ∧
        Finds (runStore Registry.serve {} elsewhere sampleRequest keptElsewhere).state {}
          sampleOverride sampleTag new ∧
        ((∀ l ∈ [sampleLayer], ∃ l' ∈ new, l.Matches l') ↔
          ∀ l ∈ [sampleLayer], ∃ l' ∈ layer.appendTo base, l.Matches l') := by
  have hsucceeds : Succeeds {} elsewhere sampleRequest keptElsewhere :=
    ⟨by decide, store_keptElsewhere.1⟩
  obtain ⟨layer, base, new, hlayer, hbase, hnew, -, -, hkept, -⟩ :=
    layers_kept_iff keptElsewhere hashed_keptElsewhere {} elsewhere sampleRequest
      parse_sampleReference parse_sampleOverride hsucceeds {} sampleTag tag_sampleRequest
      [sampleLayer] finds_keptElsewhere
  exact ⟨hsucceeds, layer, base, new, hlayer, hbase, hnew, hkept⟩

/-- A successful store may lose a layer that was under the tag. -/
theorem layer_lost :
    ¬ ∀ (r : Registry) (remote : RemoteOptions) (o : StoreOptions) (q : StoreRequest)
      (reference : Text), r.Hashed → Artifact.parse reference = .ok q.artifact →
      (∀ repository, o.repository = some repository →
        ∃ name, Repository.parse name = .ok repository) →
      Succeeds remote o q r → ∀ (reader : RemoteOptions) (tag : Text) (old : List Layer),
      q.artifact.tag? q.kind.suffix = some tag → Finds r reader (target o q) tag old →
      ∃ new, Finds (runStore Registry.serve remote o q r).state reader (target o q) tag new ∧
        ∀ l ∈ old, ∃ l' ∈ new, l.Matches l' := by
  intro h
  obtain ⟨new, hnew, hkept⟩ := h keptElsewhere {} elsewhere sampleRequest sampleReference
    hashed_keptElsewhere parse_sampleReference parse_sampleOverride
    ⟨by decide, store_keptElsewhere.1⟩ {} sampleTag [sampleLayer] tag_sampleRequest
    finds_keptElsewhere
  obtain ⟨l', hl', hsame⟩ := hkept sampleLayer (by simp)
  obtain ⟨new', hnew', hmatch⟩ := finds_signature
  obtain rfl : new' = new := Except.ok.inj (hnew'.symm.trans hnew)
  have hnot : ¬ sampleLayer.Matches signatureLayer := by
    intro h
    cases h.mediaType
  exact hnot (by simpa using (exists_matches_iff hmatch sampleLayer).1 ⟨l', hl', hsame⟩)

end Storing
end Signet
