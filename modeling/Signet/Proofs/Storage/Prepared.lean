import Mathlib
import Signet.Proofs.Remote.Image
import Signet.Storage.Store

/-!
# Stores as preparing and writing

Whatever the format, a store prepares an image and writes it. Preparing resolves the artifact,
builds the layer or the bundle and decides where the image goes; it only reads. Writing is
the same for all formats. `same_storeWith` says that a store has the courses of these two
steps, so that what is proved of preparing and of writing holds of every store.

## Main definitions

* `Format.routed` — the format that an identifier stands for.
* `ReadyImage` — an image that is ready to be written.
* `Storing.storeIn` — a store whose format is decided.
* `Storing.prepare`, `Storing.write` — the two steps of a store.
-/
namespace Signet

/-- The format that an identifier stands for: the oldest one if it names none. -/
def Format.routed (identifier : Text) : Format := (Format.ofIdentifier? identifier).getD .legacy

theorem Format.routed_identifier (format : Format) : Format.routed format.identifier = format := by
  rw [Format.routed, Format.ofIdentifier?_identifier]
  rfl

/-- An image that is ready to be written. -/
structure ReadyImage where
  repository : Repository
  layers : List Layer
  placement : Placement

theorem SignedEntity.layers_attach (entity : SignedEntity) (layer : Layer) (kind : Kind) :
    (entity.attach layer kind).layers kind = layer.appendTo (entity.layers kind) := by
  cases kind <;> rfl

theorem SignedEntity.artifact_attach (entity : SignedEntity) (layer : Layer) (kind : Kind) :
    (entity.attach layer kind).artifact = entity.artifact := by
  cases kind <;> rfl

namespace Storing

open Attempt (Yields Sends Same)

/-- Stores in a format that is decided. -/
def storeIn (format : Format) (remote : RemoteOptions) (o : StoreOptions) (q : StoreRequest) :
    Storing Unit := do
  let entity ← resolve remote q.artifact (neededSuffixes format q.kind)
  storeAs format remote q entity (o.repository.getD q.artifact.repository)

/-! ## The steps of a store -/

/-- Adds the layer to the entity and decides its tag. -/
def prepareTagged (q : StoreRequest) (entity : SignedEntity) (repository : Repository) :
    Storing ReadyImage := do
  let layer ← built (q.material.layer q.kind)
  let tag ← (Remote.tagFor entity.artifact q.kind.suffix).mapError (writeFailure (.tagged q.kind))
  return ⟨repository, layer.appendTo (entity.layers q.kind), .tag tag⟩

/-- Adds the layer to the entity and describes its subject. -/
def prepareReferrer (o : RemoteOptions) (q : StoreRequest) (entity : SignedEntity) :
    Storing ReadyImage := do
  let layer ← built (q.material.layer q.kind)
  let subject ← (Remote.subjectDescriptor o q.artifact (some (entity.attach layer q.kind))).mapError
    (referrerFailure (.referrer q.kind))
  return ⟨q.artifact.repository, layer.appendTo (entity.layers q.kind),
    .subject subject q.kind.artifactType []⟩

/-- Builds the bundle and describes its subject. -/
def prepareBundle (o : RemoteOptions) (q : StoreRequest) : Storing ReadyImage := do
  let envelope ← built (Envelope.build q.payload q.material)
  let subject ← (Remote.subjectDescriptor o q.artifact none).mapError
    (referrerFailure (.bundle q.kind))
  return ⟨q.artifact.repository, [{ mediaType := MediaType.bundle, content := envelope.data }],
    .subject subject MediaType.bundle
      [(AnnotationKey.bundleContent, "dsse-envelope"),
       (AnnotationKey.bundlePredicateType, envelope.predicateType)]⟩

/-- Prepares the image in the way of a format. -/
def prepareAs (format : Format) (o : RemoteOptions) (q : StoreRequest) (entity : SignedEntity)
    (repository : Repository) : Storing ReadyImage :=
  match format with
  | .legacy => prepareTagged q entity repository
  | .referrers => prepareReferrer o q entity
  | .bundle => if q.kind.hasBundle then prepareBundle o q else prepareReferrer o q entity

/-- Resolves the artifact and prepares the image. -/
def prepare (remote : RemoteOptions) (o : StoreOptions) (q : StoreRequest) :
    Storing ReadyImage := do
  let entity ← resolve remote q.artifact (neededSuffixes (.routed o.format) q.kind)
  prepareAs (.routed o.format) remote q entity (o.repository.getD q.artifact.repository)

/-- How a failure to write the image of a format is seen. -/
def pushFailure (format : Format) (kind : Kind) : RemoteFailure → StoreFailure :=
  match format with
  | .legacy => writeFailure (.tagged kind)
  | .referrers => referrerFailure (.referrer kind)
  | .bundle =>
    if kind.hasBundle then referrerFailure (.bundle kind) else referrerFailure (.referrer kind)

/-- Writes the image that was prepared. -/
def write (remote : RemoteOptions) (failure : RemoteFailure → StoreFailure) (image : ReadyImage) :
    Storing Unit := do
  let _ ← (Remote.writeImage remote image.repository image.layers image.placement).mapError failure

abbrev runStore {σ : Type} (server : Session.Server σ) (remote : RemoteOptions) (o : StoreOptions)
    (q : StoreRequest) (state : σ) : Session.Run σ (Except StoreFailure Unit) :=
  Session.run server (storeWith remote o q).run state

/-! ## A store has the courses of its steps -/

variable {remote : RemoteOptions} {o : StoreOptions} {q : StoreRequest} {xs : List Exchange}

theorem yields_route {ε : Type} {identifier : Text} {r : Except ε Format} :
    Yields (route (some identifier)) xs r ↔ xs = [] ∧ r = .ok (.routed identifier) := by
  rcases identifier with _ | ⟨c, t⟩
  · have hnone : Format.routed [] = .legacy := by decide
    rw [hnone]
    exact Iff.rfl
  · have hfilter : (some (c :: t)).filter (fun t => !t.isEmpty) = some (c :: t) := rfl
    rw [route, hfilter, Format.routed]
    dsimp only
    split
    · rename_i format hformat
      rw [hformat]
      exact Iff.rfl
    · rename_i hformat
      rw [hformat]
      exact Attempt.same_log_bind _ _ _ xs r

/-- A store is one in the format that its identifier stands for. -/
theorem same_storeIn :
    Same (storeWith remote o q) (storeIn (.routed o.format) remote o q) := by
  have hroute : Same (route (some o.format)) (pure (.routed o.format) : Storing Format) :=
    fun _ _ => yields_route
  have hsame := hroute.bind fun format => Same.refl (storeIn format remote o q)
  rwa [pure_bind] at hsame

theorem same_storeLegacy (entity : SignedEntity) (repository : Repository) :
    Same (storeLegacy remote q entity repository)
      (prepareTagged q entity repository >>= write remote (writeFailure (.tagged q.kind))) := by
  refine (Attempt.same_log_bind _ _ _).trans ?_
  simp only [prepareTagged, write, Remote.writeTagged, SignedEntity.artifact_attach,
    SignedEntity.layers_attach, Attempt.mapError_bind, bind_assoc, pure_bind]
  exact (Same.refl _).bind fun _ => (Same.refl _).bind fun _ => (Same.refl _).bind fun _ =>
    Attempt.same_log _ _

theorem same_storeReferrers (entity : SignedEntity) :
    Same (storeReferrers remote q entity)
      (prepareReferrer remote q entity >>= write remote (referrerFailure (.referrer q.kind))) := by
  refine (Attempt.same_log_bind _ _ _).trans ?_
  simp only [prepareReferrer, write, Remote.writeReferrer, SignedEntity.layers_attach,
    Attempt.mapError_bind, bind_assoc, pure_bind]
  exact (Same.refl _).bind fun _ => (Same.refl _).bind fun _ => (Same.refl _).bind fun _ =>
    Attempt.same_log _ _

theorem same_storeBundle (entity : SignedEntity) (hbundle : q.kind.hasBundle = true) :
    Same (storeBundle remote q entity)
      (prepareBundle remote q >>= write remote (referrerFailure (.bundle q.kind))) := by
  simp only [storeBundle, hbundle, Bool.not_true, Bool.false_eq_true, if_false]
  refine (Attempt.same_log_bind _ _ _).trans ?_
  simp only [prepareBundle, write, Remote.writeBundle, Attempt.mapError_bind, bind_assoc, pure_bind]
  exact (Same.refl _).bind fun _ => (Same.refl _).bind fun _ => (Same.refl _).bind fun _ =>
    Attempt.same_log _ _

theorem same_storeAs (format : Format) (entity : SignedEntity) (repository : Repository) :
    Same (storeAs format remote q entity repository)
      (prepareAs format remote q entity repository >>=
        write remote (pushFailure format q.kind)) := by
  cases format with
  | legacy => exact same_storeLegacy entity repository
  | referrers => exact same_storeReferrers entity
  | bundle =>
    by_cases hbundle : q.kind.hasBundle = true
    · simp only [storeAs, prepareAs, pushFailure, hbundle, if_true]
      exact same_storeBundle entity hbundle
    · simp only [storeAs, prepareAs, pushFailure, hbundle, Bool.false_eq_true, if_false]
      simp only [storeBundle, hbundle, Bool.not_false, if_true]
      exact (Attempt.same_log_bind _ _ _).trans (same_storeReferrers entity)

/-- A store has the courses of preparing an image and writing it. -/
theorem same_storeWith :
    Same (storeWith remote o q)
      (prepare remote o q >>= write remote (pushFailure (.routed o.format) q.kind)) := by
  refine same_storeIn.trans ?_
  rw [prepare, bind_assoc]
  exact (Same.refl _).bind fun entity => same_storeAs _ entity _

/-- The courses of a store: preparing fails, or an image is prepared and written. -/
theorem yields_storeWith {r : Except StoreFailure Unit} :
    Yields (storeWith remote o q) xs r ↔
      (∃ e, Yields (prepare remote o q) xs (.error e) ∧ r = .error e) ∨
      ∃ ys zs image r', xs = ys ++ zs ∧ Yields (prepare remote o q) ys (.ok image) ∧
        Yields (Remote.writeImage remote image.repository image.layers image.placement) zs r' ∧
        r = (r'.map fun _ => ()).mapError (pushFailure (.routed o.format) q.kind) := by
  rw [same_storeWith, Attempt.yields_bind]
  refine or_congr Iff.rfl ?_
  have hwrite (image : ReadyImage) (zs : List Exchange) :
      Yields (write remote (pushFailure (.routed o.format) q.kind) image) zs r ↔
        ∃ r',
          Yields (Remote.writeImage remote image.repository image.layers image.placement) zs r' ∧
          r = (r'.map fun _ => ()).mapError (pushFailure (.routed o.format) q.kind) := by
    simp only [write, Attempt.yields_bind, Attempt.yields_mapError]
    constructor
    · rintro (⟨e, ⟨r', hr', he⟩, rfl⟩ | ⟨ys, ws, a, rfl, ⟨r', hr', ha⟩, rfl, rfl⟩)
      · cases r' with
        | ok _ => cases he
        | error e' =>
          cases he
          exact ⟨_, hr', rfl⟩
      · cases r' with
        | error _ => cases ha
        | ok a' => exact ⟨_, by rwa [List.append_nil], rfl⟩
    · rintro ⟨e' | a, hr', rfl⟩
      · exact .inl ⟨_, ⟨_, hr', rfl⟩, rfl⟩
      · exact .inr ⟨zs, [], a, (List.append_nil zs).symm, ⟨_, hr', rfl⟩, rfl, rfl⟩
  simp only [hwrite]
  constructor
  · rintro ⟨ys, zs, image, rfl, himage, r', hr', rfl⟩
    exact ⟨ys, zs, image, r', rfl, himage, hr', rfl⟩
  · rintro ⟨ys, zs, image, r', rfl, himage, hr', rfl⟩
    exact ⟨ys, zs, image, rfl, himage, r', hr', rfl⟩

/-! ## Preparing only reads -/

theorem sends_resolve (artifact : Artifact) (suffixes : List Text) :
    Sends Request.Reads (resolve remote artifact suffixes) :=
  (Remote.sends_signedEntity artifact suffixes).recover _

theorem sends_prepareReferrer (entity : SignedEntity) :
    Sends Request.Reads (prepareReferrer remote q entity) :=
  (Attempt.sends_ofExcept _).bind fun _ =>
    ((Remote.sends_subjectDescriptor _ _).mapError _).bind fun _ => Attempt.sends_pure _

theorem sends_prepareAs (format : Format) (entity : SignedEntity) (repository : Repository) :
    Sends Request.Reads (prepareAs format remote q entity repository) := by
  cases format with
  | legacy =>
    exact (Attempt.sends_ofExcept _).bind fun _ =>
      ((Remote.sends_tagFor _ _).mapError _).bind fun _ => Attempt.sends_pure _
  | referrers => exact sends_prepareReferrer entity
  | bundle =>
    rw [prepareAs]
    split
    · exact (Attempt.sends_ofExcept _).bind fun _ =>
        ((Remote.sends_subjectDescriptor _ _).mapError _).bind fun _ => Attempt.sends_pure _
    · exact sends_prepareReferrer entity

theorem sends_prepare : Sends Request.Reads (prepare remote o q) :=
  (sends_resolve _ _).bind fun entity => sends_prepareAs _ entity _

/-- What is resolved belongs to the artifact. -/
theorem artifact_of_resolve {artifact : Artifact} {suffixes : List Text} {entity : SignedEntity}
    (h : Yields (resolve remote artifact suffixes) xs (.ok entity)) :
    entity.artifact = artifact := by
  rcases Attempt.yields_recover.1 h with ⟨known, hknown, hentity⟩ | ⟨e, -, hentity⟩
  · cases hentity
    obtain ⟨_, _, _, -, -, h⟩ := Attempt.yields_bind_ok.1 hknown
    obtain ⟨_, _, _, -, -, h⟩ := Attempt.yields_bind_ok.1 h
    obtain ⟨_, _, _, -, -, -, hentity⟩ := Attempt.yields_bind_ok.1 h
    cases hentity
    rfl
  · split at hentity
    · cases hentity
      rfl
    · cases hentity
    · cases hentity

/-! ## Where an image is put -/

/-- The image extends what was resolved by the layer of the request, under the tag of the kind. -/
structure ExtendsTag (q : StoreRequest) (entity : SignedEntity) (repository : Repository)
    (layer : Layer) (tag : Text) (image : ReadyImage) : Prop where
  built : q.material.layer q.kind = .ok layer
  tagged : entity.artifact.tag? q.kind.suffix = some tag
  image_eq : image = ⟨repository, layer.appendTo (entity.layers q.kind), .tag tag⟩

theorem extendsTag_of_prepareTagged {entity : SignedEntity} {repository : Repository}
    {image : ReadyImage} (h : Yields (prepareTagged q entity repository) xs (.ok image)) :
    ∃ layer tag, ExtendsTag q entity repository layer tag image := by
  obtain ⟨_, _, layer, -, hlayer, h⟩ := Attempt.yields_bind_ok.1 h
  obtain ⟨_, _, tag, -, htag, -, himage⟩ := Attempt.yields_bind_ok.1 h
  cases himage
  refine ⟨layer, tag, ?_, ?_, rfl⟩
  · obtain ⟨-, hok⟩ := hlayer
    cases hbuilt : q.material.layer q.kind with
    | error e =>
      rw [hbuilt] at hok
      cases hok
    | ok built =>
      rw [hbuilt] at hok
      cases hok
      rfl
  · obtain ⟨r', hr', hok⟩ := Attempt.yields_mapError.1 htag
    rw [Remote.tagFor] at hr'
    split at hr'
    · rename_i found hfound
      obtain ⟨-, rfl⟩ := hr'
      cases hok
      exact hfound
    · obtain ⟨-, rfl⟩ := hr'
      cases hok

/-- The image goes to the repository of the artifact, under its own digest. -/
def HasSubject (q : StoreRequest) (image : ReadyImage) : Prop :=
  image.repository = q.artifact.repository ∧ ∀ tag, image.placement ≠ .tag tag

theorem hasSubject_of_prepareReferrer {entity : SignedEntity} {image : ReadyImage}
    (h : Yields (prepareReferrer remote q entity) xs (.ok image)) : HasSubject q image := by
  obtain ⟨_, _, layer, -, -, h⟩ := Attempt.yields_bind_ok.1 h
  obtain ⟨_, _, subject, -, -, -, himage⟩ := Attempt.yields_bind_ok.1 h
  cases himage
  exact ⟨rfl, by simp⟩

theorem hasSubject_of_prepareBundle {image : ReadyImage}
    (h : Yields (prepareBundle remote q) xs (.ok image)) : HasSubject q image := by
  obtain ⟨_, _, envelope, -, -, h⟩ := Attempt.yields_bind_ok.1 h
  obtain ⟨_, _, subject, -, -, -, himage⟩ := Attempt.yields_bind_ok.1 h
  cases himage
  exact ⟨rfl, by simp⟩

/-- Only images of the oldest format are put under a tag, and they extend what was resolved. -/
theorem prepareAs_cases {format : Format} {entity : SignedEntity} {repository : Repository}
    {image : ReadyImage} (h : Yields (prepareAs format remote q entity repository) xs (.ok image)) :
    (format = .legacy ∧ ∃ layer tag, ExtendsTag q entity repository layer tag image) ∨
      (format ≠ .legacy ∧ HasSubject q image) := by
  cases format with
  | legacy => exact .inl ⟨rfl, extendsTag_of_prepareTagged h⟩
  | referrers => exact .inr ⟨by decide, hasSubject_of_prepareReferrer h⟩
  | bundle =>
    refine .inr ⟨by decide, ?_⟩
    rw [prepareAs] at h
    split at h
    · exact hasSubject_of_prepareBundle h
    · exact hasSubject_of_prepareReferrer h

theorem tagged_iff_of_prepare {image : ReadyImage}
    (h : Yields (prepare remote o q) xs (.ok image)) :
    Format.routed o.format = .legacy ↔ ∃ tag, image.placement = .tag tag := by
  obtain ⟨_, _, entity, -, -, h⟩ := Attempt.yields_bind_ok.1 h
  rcases prepareAs_cases h with ⟨hformat, layer, tag, himage⟩ | ⟨hformat, -, hsubject⟩
  · simp [hformat, himage.image_eq]
  · simp [hformat, hsubject]

/-! ## A request -/

/-- Text as it is kept in registries. -/
def encoded (t : Text) : Bytes := t.flatMap Utf8.encodeCodePoint

def sampleReference : Text :=
  "r.io/a@sha256:aaaaaaaaaaaaaaaaaaaaaaaaaaaaaaaaaaaaaaaaaaaaaaaaaaaaaaaaaaaaaaaa"

def sampleArtifact : Artifact := ⟨⟨"r.io", "a"⟩, sampleReference.drop 7⟩

/-- A signature of it. -/
def sampleRequest : StoreRequest :=
  { kind := .signature
    artifact := sampleArtifact
    payload := .json .null
    material := { content := [99], signature := [115] } }

theorem parse_sampleReference : Artifact.parse sampleReference = .ok sampleArtifact := by
  decide +kernel

end Storing
end Signet
