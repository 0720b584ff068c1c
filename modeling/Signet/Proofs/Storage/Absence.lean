import Mathlib
import Signet.Proofs.Remote.TagImage
import Signet.Proofs.Storage.Prepared
import Signet.Registry.Script

/-!
# Absence is told by the registry

A resolution that succeeds gives the placeholder of an artifact exactly if the registry answers
that the manifest of the artifact is missing, and then no tag is asked for. Otherwise it gives
the layers that the manifests under the tags list. No other reply stands for absence: not one
for a tag, not one for the content of a layer, and no failure.

## Main definitions

* `Storing.runResolution` — the run of a resolution against a server.
* `Storing.EntityRead` — the exchanges that read the material of both kinds.
* `Storing.Resolved` — what the exchanges of a resolution tell about its result.
-/
namespace Signet
namespace Storing

open Attempt (Yields)
open Remote (Asks KindRead ImageRead manifestRequest)

variable {o : RemoteOptions} {artifact : Artifact} {suffixes : List Text} {xs : List Exchange}
  {entity : SignedEntity}

abbrev runResolution {σ : Type} (server : Session.Server σ) (o : RemoteOptions)
    (artifact : Artifact) (suffixes : List Text) (state : σ) :
    Session.Run σ (Except StoreFailure SignedEntity) :=
  Session.run server (resolve o artifact suffixes).run state

/-- The exchanges read the material of an artifact, first the signatures and then the
attestations. -/
structure EntityRead (o : RemoteOptions) (artifact : Artifact) (suffixes : List Text)
    (xs : List Exchange) (entity : SignedEntity) : Prop where
  artifact_eq : entity.artifact = artifact
  known : entity.known = true
  parts : ∃ part : Kind → List Exchange, xs = part .signature ++ part .attestation ∧
    ∀ kind, KindRead o artifact suffixes kind (part kind) (entity.layers kind)

/-- A kind that is asked for has no layers only if the manifest under its tag is missing or lists
none. -/
theorem EntityRead.absent (h : EntityRead o artifact suffixes xs entity) {kind : Kind}
    (hsuffix : kind.suffix ∈ suffixes) (hnone : entity.layers kind = []) :
    ∃ tag p, artifact.tag? kind.suffix = some tag ∧
      (manifestRequest o .get artifact.repository tag, .received p) ∈ xs ∧
      (p.status = 404 ∨ ∃ members : Json.Members, Json.readBytes p.body = .ok (.object members) ∧
        members.get? "layers" = some (.array [])) := by
  obtain ⟨part, rfl, hread⟩ := h.parts
  have hkind := hread kind
  rw [hnone] at hkind
  generalize hxs : part kind = xs at hkind
  cases hkind with
  | notAsked hnot => exact absurd hsuffix hnot
  | @asked tag _ _ _ htag himage =>
    obtain ⟨p, rfl, hp⟩ := himage.of_nil
    refine ⟨tag, p, htag, ?_, hp⟩
    cases kind <;> simp [hxs]

/-- What the exchanges of a resolution tell: those that ask for the manifest of the artifact,
those that read behind them, and the reply that decides whether the artifact is there. -/
structure Resolved (o : RemoteOptions) (artifact : Artifact) (suffixes : List Text)
    (asked read : List Exchange) (reply : Reply) (entity : SignedEntity) : Prop where
  asks : Asks o artifact.repository artifact.digest asked reply
  unknown_iff : entity = .unknown artifact ↔ reply.NotFound
  read_of_notFound : reply.NotFound → read = []
  read_of_found : ¬ reply.NotFound → EntityRead o artifact suffixes read entity
  absent_of_nil : ¬ reply.NotFound → ∀ kind : Kind, kind.suffix ∈ suffixes →
    entity.layers kind = [] → ∃ tag p, artifact.tag? kind.suffix = some tag ∧
      (manifestRequest o .get artifact.repository tag, .received p) ∈ read ∧
      (p.status = 404 ∨ ∃ members : Json.Members, Json.readBytes p.body = .ok (.object members) ∧
        members.get? "layers" = some (.array []))

/-- An entity that is read is known, so it is no placeholder. -/
theorem EntityRead.resolved {asked : List Exchange} {reply : Reply}
    (h : EntityRead o artifact suffixes xs entity)
    (hasks : Asks o artifact.repository artifact.digest asked reply)
    (hfound : ¬ reply.NotFound) : Resolved o artifact suffixes asked xs reply entity where
  asks := hasks
  unknown_iff := by
    refine iff_of_false ?_ hfound
    rintro rfl
    exact Bool.noConfusion h.known
  read_of_notFound := fun hmissing => absurd hmissing hfound
  read_of_found := fun _ => h
  absent_of_nil := fun _ _ hsuffix hnone => h.absent hsuffix hnone

/-- The courses of reading an artifact: the manifest is missing, reading fails otherwise, or
the material is read. -/
theorem signedEntity_cases {r : Except RemoteFailure SignedEntity}
    (h : Yields (Remote.signedEntity o artifact suffixes) xs r) :
    (∃ reply, Asks o artifact.repository artifact.digest xs reply ∧ reply.NotFound ∧
      ∃ e, r = .error e ∧ e.IsMissing) ∨
    (∃ e, r = .error e ∧ ¬ e.IsMissing) ∨
    ∃ asked read reply entity, xs = asked ++ read ∧
      Asks o artifact.repository artifact.digest asked reply ∧ ¬ reply.NotFound ∧
      r = .ok entity ∧ EntityRead o artifact suffixes read entity := by
  rcases Attempt.yields_bind.1 h with ⟨e, hhead, rfl⟩ | ⟨asked, _, descriptor, rfl, hhead, h⟩
  · obtain ⟨reply, hasks, hmissing⟩ := (Remote.headCourse hhead).asks
    by_cases he : e.IsMissing
    · exact .inl ⟨reply, hasks, hmissing.1 ⟨e, rfl, he⟩, e, rfl, he⟩
    · exact .inr (.inl ⟨e, rfl, he⟩)
  obtain ⟨reply, hasks, hmissing⟩ := (Remote.headCourse hhead).asks
  have hfound : ¬ reply.NotFound := by
    intro hnot
    obtain ⟨e, he, -⟩ := hmissing.2 hnot
    cases he
  rcases Attempt.yields_bind.1 h with ⟨e, he, rfl⟩ | ⟨ys, _, signatures, rfl, hsignatures, h⟩
  · exact .inr (.inl ⟨e, rfl, Remote.fails_loadKind _ _ _ he⟩)
  rcases Attempt.yields_bind.1 h with ⟨e, he, rfl⟩ | ⟨zs, _, attestations, rfl, hattestations, h⟩
  · exact .inr (.inl ⟨e, rfl, Remote.fails_loadKind _ _ _ he⟩)
  obtain ⟨rfl, rfl⟩ := h
  refine .inr (.inr ⟨asked, ys ++ zs, reply, _, by rw [List.append_nil], hasks, hfound, rfl, ?_⟩)
  refine ⟨rfl, rfl, fun kind => if kind = .signature then ys else zs, rfl, ?_⟩
  intro kind
  cases kind with
  | signature => exact Remote.kindRead_of_loadKind hsignatures
  | attestation => exact Remote.kindRead_of_loadKind hattestations

theorem resolved_of_resolve (h : Yields (resolve o artifact suffixes) xs (.ok entity)) :
    ∃ asked read reply, xs = asked ++ read ∧
      Resolved o artifact suffixes asked read reply entity := by
  rcases Attempt.yields_recover.1 h with ⟨found, hfound, hsame⟩ | ⟨e, hfails, hsame⟩
  · cases hsame
    rcases signedEntity_cases hfound with ⟨_, _, _, e, he, _⟩ | ⟨e, he, _⟩ |
      ⟨asked, read, reply, entity, rfl, hasks, hfound, hok, hread⟩
    · cases he
    · cases he
    · cases hok
      exact ⟨asked, read, reply, rfl, hread.resolved hasks hfound⟩
  · split at hsame
    · cases hsame
      rcases signedEntity_cases hfails with ⟨reply, hasks, hmissing, -⟩ | ⟨e, he, hne⟩ |
        ⟨_, _, _, _, _, _, _, hok, _⟩
      · exact ⟨xs, [], reply, (List.append_nil xs).symm, hasks, iff_of_true rfl hmissing,
          fun _ => rfl, fun hfound => absurd hmissing hfound,
          fun hfound => absurd hmissing hfound⟩
      · cases he
        exact absurd ⟨_, _, rfl⟩ hne
      · cases hok
    · cases hsame
    · cases hsame

/-- Whatever the server does, a resolution that succeeds took no failure for absence: its
exchanges tell whether the artifact is there, and which layers are kept under its tags. -/
theorem resolution_tells_absence {σ : Type} (server : Session.Server σ) (state : σ)
    (o : RemoteOptions) (artifact : Artifact) (suffixes : List Text) (entity : SignedEntity)
    (h : (runResolution server o artifact suffixes state).result = .ok entity) :
    ∃ asked read reply,
      (runResolution server o artifact suffixes state).exchanges = asked ++ read ∧
        Resolved o artifact suffixes asked read reply entity := by
  have hyields := Attempt.yields_run server (resolve o artifact suffixes) state
  rw [h] at hyields
  exact resolved_of_resolve hyields

/-! ## A resolution -/

/-- A registry that keeps the sample artifact and an image with one signature. -/
def oneSignature : ScriptedRegistry :=
  { rules :=
    [{ method := some "HEAD"
       contains := "/manifests/sha256:"
       reply := .response ⟨200, [("Docker-Content-Digest", "d"), ("Content-Type", "m"),
        ("Content-Length", "1")], []⟩ },
     { contains := ".sig"
       reply := .response ⟨200, [], encoded ("\x7b\"layers\": [\x7b\"mediaType\": \"t\", " ++
        "\"digest\": \"e\", \"annotations\": \x7b\"k\": 1\x7d\x7d]\x7d")⟩ },
     { contains := "/blobs/e", reply := .response ⟨200, [], [99]⟩ }] }

/-- What is resolved there. -/
def oneSigned : SignedEntity :=
  { artifact := sampleArtifact
    descriptor := some { mediaType := "m", digest := "d", size := 1 }
    signatures := [{ mediaType := "t", content := [99], annotations := [("k", "1")] }] }

theorem resolution_tells_absence_oneSignature :
    (runResolution ScriptedRegistry.serve {} sampleArtifact ["sig"] oneSignature).result =
      .ok oneSigned ∧
    ∃ asked read reply,
      (runResolution ScriptedRegistry.serve {} sampleArtifact ["sig"] oneSignature).exchanges =
          asked ++ read ∧
        Resolved {} sampleArtifact ["sig"] asked read reply oneSigned := by
  have hresult : (runResolution ScriptedRegistry.serve {} sampleArtifact ["sig"]
      oneSignature).result = .ok oneSigned := by decide +kernel
  exact ⟨hresult, resolution_tells_absence ScriptedRegistry.serve oneSignature {} sampleArtifact
    ["sig"] oneSigned hresult⟩

end Storing
end Signet
