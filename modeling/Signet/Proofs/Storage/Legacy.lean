import Mathlib
import Signet.Proofs.Storage.Material
import Signet.Proofs.Storage.Resolve

/-!
# What one store does to a registry

Whatever comes of a store, the registry has grown. Manifests under tags change only if the
format is the oldest one and the store succeeds; then the tag of the kind keeps an image of
the layers that were resolved, extended by the layer of the request.

## Main definitions

* `Storing.target`, `Storing.destination` — the repository that a store writes to.
* `Storing.Placed` — where a prepared image goes.
* `Storing.Extended` — the tag keeps the layers that were resolved with one more.
-/
namespace Signet
namespace Storing

open Attempt (Yields)
open Session (Served)
open Registry (Grows Image Keeps keyOf)

variable {r r' : Registry} {o : StoreOptions} {q : StoreRequest}

/-- A layer that was built is read back as it was written. -/
theorem sound_of_built {material : Material} {kind : Kind} {layer : Layer}
    (h : material.layer kind = .ok layer) : layer.Sound := by
  have hd := Material.distinct_of_layer h
  obtain ⟨-, certificate, -, rfl⟩ := Material.layer_eq_ok_iff.1 h
  have htype : Material.layerType kind ≠ [] := by cases kind <;> decide
  exact ⟨htype, hd⟩

/-- The repository to which images of the oldest format are written. -/
def target (o : StoreOptions) (q : StoreRequest) : Repository :=
  o.repository.getD q.artifact.repository

/-- The repository that a store writes to. Only tags are put into another repository than that of
the artifact. -/
def destination (o : StoreOptions) (q : StoreRequest) : Repository :=
  if Format.routed o.format = .legacy then target o q else q.artifact.repository

theorem parsed_destination (hartifact : q.artifact.Parsed) (htarget : (target o q).Parsed) :
    (destination o q).Parsed := by
  rw [destination]
  split_ifs
  · exact htarget
  · exact hartifact.repository

/-- Where a prepared image goes: under the tag of the kind in the oldest format, and else to its
subject in the repository of the artifact. -/
inductive Placed (o : StoreOptions) (q : StoreRequest) (image : ReadyImage) : Prop where
  | tagged {tag : Text} (hformat : Format.routed o.format = .legacy)
    (htag : q.artifact.tag? q.kind.suffix = some tag) (hplacement : image.placement = .tag tag)
  | subject {d : Descriptor} {artifactType : Text} {annotations : Annotations}
    (hformat : Format.routed o.format ≠ .legacy)
    (hplacement : image.placement = .subject d artifactType annotations)

theorem placed_of_prepare {remote : RemoteOptions} {image : ReadyImage} {xs : List Exchange}
    (h : Yields (prepare remote o q) xs (.ok image)) :
    image.repository = destination o q ∧ Placed o q image := by
  obtain ⟨ys, zs, entity, rfl, hresolve, himage⟩ := Attempt.yields_bind_ok.1 h
  rcases prepareAs_cases himage with
    ⟨hformat, layer, tag, hextends⟩ | ⟨hformat, hrepository, hplacement⟩
  · have htag := hextends.tagged
    rw [artifact_of_resolve hresolve] at htag
    rw [hextends.image_eq, destination, if_pos hformat]
    exact ⟨rfl, .tagged hformat htag rfl⟩
  · rw [destination, if_neg hformat]
    cases hsubject : image.placement with
    | tag tag => exact absurd hsubject (hplacement tag)
    | subject d artifactType annotations => exact ⟨hrepository, .subject hformat hsubject⟩

/-- The store succeeded in the oldest format, and its tag keeps the layers that were resolved
with one more. -/
structure Extended (remote : RemoteOptions) (o : StoreOptions) (q : StoreRequest)
    (r r' : Registry) (tag : Text) (base : List Layer) (layer : Layer) : Prop where
  built : q.material.layer q.kind = .ok layer
  tagged : q.artifact.tag? q.kind.suffix = some tag
  resolved : Resolves r remote q.artifact q.kind base
  grows : Grows (fun key => key = keyOf (target o q) tag) r r'
  keeps : Keeps r' (target o q) tag (layer.appendTo base) (.tag tag)

/-- The store succeeds in the oldest format. -/
def Succeeds (remote : RemoteOptions) (o : StoreOptions) (q : StoreRequest) (r : Registry) : Prop :=
  Format.routed o.format = .legacy ∧ (runStore Registry.serve remote o q r).result = .ok ()

/-- Layers that were resolved are read back as they are written. -/
theorem sound_of_resolves {artifact : Artifact} {kind : Kind} {tag : Text} {layers : List Layer}
    {remote : RemoteOptions} (h : artifact.Parsed) (htag : artifact.tag? kind.suffix = some tag)
    (hresolves : Resolves r remote artifact kind layers) : ∀ l ∈ layers, l.Sound := by
  cases hm : Assoc.lookup (keyOf artifact.repository artifact.digest) r.manifests with
  | none =>
    obtain rfl := (resolves_iff_of_missing h hm).1 hresolves
    simp
  | some m => exact ((resolves_iff h htag hm).1 hresolves).2.sound

/-- Whoever reads the tag afterwards finds the layers that were resolved with one more. -/
theorem Extended.image {remote : RemoteOptions} {tag : Text} {base : List Layer} {layer : Layer}
    (h : Extended remote o q r r' tag base layer) (hartifact : q.artifact.Parsed)
    (htarget : (target o q).Parsed) (reader : RemoteOptions) :
    ∃ new, Image r' reader (target o q) tag new ∧ Layer.AllMatch (layer.appendTo base) new :=
  h.keeps.image h.grows.hashed htarget
    ((sound_of_built h.built).appendTo (sound_of_resolves hartifact h.tagged h.resolved)) reader

/-- What one store does to a registry. -/
theorem store_cases (remote : RemoteOptions) (hr : r.Hashed) (hartifact : q.artifact.Parsed)
    (htarget : (target o q).Parsed) :
    (¬ Succeeds remote o q r ∧
      Grows (fun _ => False) r (runStore Registry.serve remote o q r).state) ∨
    (Succeeds remote o q r ∧ ∃ tag base layer,
      Extended remote o q r (runStore Registry.serve remote o q r).state tag base layer) := by
  have hyields := Attempt.yields_run Registry.serve (storeWith remote o q) r
  have hserved := Session.served_run Registry.serve (storeWith remote o q).run r
  rw [Succeeds]
  generalize (runStore Registry.serve remote o q r).exchanges = xs at hyields hserved
  generalize (runStore Registry.serve remote o q r).state = final at hserved ⊢
  generalize (runStore Registry.serve remote o q r).result = res at hyields ⊢
  rcases yields_storeWith.1 hyields with ⟨e, he, rfl⟩ |
    ⟨ys, zs, image, written, rfl, himage, hwrite, rfl⟩
  · left
    rw [(Registry.served_reads (sends_prepare he) hserved).1]
    exact ⟨by simp, .refl hr⟩
  -- Preparing only reads, so the image is written to the registry that was read.
  obtain ⟨middle, hys, hzs⟩ := Session.served_append.1 hserved
  have hmiddle := (Registry.served_reads (sends_prepare himage) hys).1
  subst hmiddle
  obtain ⟨us, vs, entity, rfl, hentity, hprepared⟩ := Attempt.yields_bind_ok.1 himage
  rcases prepareAs_cases hprepared with
    ⟨hformat, layer, tag, hextends⟩ | ⟨hformat, hrepository, hplacement⟩
  · obtain ⟨hbuilt, htag, rfl⟩ := hextends
    rw [artifact_of_resolve hentity] at htag
    obtain ⟨hgrows, hkeeps⟩ := Registry.grows_writeImage hr htarget hwrite hzs
      (by rintro _ ⟨⟩; exact Remote.whole_tag hartifact (whole_suffix _) htag)
    cases written with
    | error e =>
      -- The tag may change only if the image was written.
      refine .inl ⟨by simp [Except.map, Except.mapError], hgrows.mono ?_⟩
      rintro _ - ⟨⟨_, hok⟩, -⟩
      cases hok
    | ok digest =>
      obtain ⟨before, hus, -⟩ := Session.served_append.1 hys
      rw [hformat] at hentity
      refine .inr ⟨⟨hformat, rfl⟩, tag, entity.layers q.kind, layer, hbuilt, htag,
        ⟨entity, Registry.outcome_eq_of_yields hentity hus, rfl⟩, hgrows.mono ?_,
        hkeeps ⟨digest, rfl⟩ tag rfl⟩
      rintro _ - ⟨-, _, ⟨⟩, rfl⟩
      rfl
  · have hparsed : image.repository.Parsed := hrepository ▸ hartifact.repository
    obtain ⟨hgrows, -⟩ := Registry.grows_writeImage hr hparsed hwrite hzs
      fun tag htag => absurd htag (hplacement tag)
    exact .inl ⟨fun hsucceeds => hformat hsucceeds.1,
      hgrows.mono fun _ _ hkey => hkey.2.elim fun tag htag => hplacement tag htag.1⟩

end Storing
end Signet
