import Mathlib
import Signet.Proofs.Reference.Artifact
import Signet.Proofs.Remote.Fault
import Signet.Proofs.Storage.Prepared
import Signet.Registry.Script

/-!
# Faults that escape a store

A store that fails names its stage, except where it ends with a fault. It does so in two
cases: its last exchange leads to that fault, or everything that the image is made of was uploaded
and the manifest of the image cannot be written.
-/
namespace Signet
namespace Storing

open Attempt (Yields BreaksOn)

variable {α : Type} {remote : RemoteOptions} {o : StoreOptions} {q : StoreRequest}
  {xs : List Exchange} {f : Fault}

/-- Work that ends with a fault exactly if its last exchange leads to it. -/
abbrev BreaksOnFaulty (f : Fault) (attempt : Storing α) : Prop :=
  BreaksOn (Faulty · f) (· = StoreFailure.fault f) attempt

theorem writeFailure_eq_fault_iff (stage : WriteStage) (e : RemoteFailure) :
    writeFailure stage e = .fault f ↔ e = .fault f := by
  cases e <;> simp [writeFailure]

theorem referrerFailure_eq_fault_iff (stage : WriteStage) (e : RemoteFailure) :
    referrerFailure stage e = .fault f ↔ e = .fault f := by
  cases e with
  | fault f => simp [referrerFailure, writeFailure]
  | registry e => cases e <;> simp [referrerFailure, writeFailure]

theorem pushFailure_eq_fault_iff (format : Format) (kind : Kind) (e : RemoteFailure) :
    pushFailure format kind e = .fault f ↔ e = .fault f := by
  cases format with
  | legacy => exact writeFailure_eq_fault_iff _ e
  | referrers => exact referrerFailure_eq_fault_iff _ e
  | bundle =>
    rw [pushFailure]
    split <;> exact referrerFailure_eq_fault_iff _ e

theorem breaksOn_built (r : Except BuildError α) : BreaksOnFaulty f (built r) := by
  apply Attempt.breaksOn_ofExcept
  intro e he
  cases r with
  | ok a => cases he
  | error e =>
    cases he
    simp

theorem breaksOn_resolve {artifact : Artifact} (h : artifact.hex? ≠ none) (suffixes : List Text) :
    BreaksOnFaulty f (resolve remote artifact suffixes) := by
  refine (Remote.breaksOn_signedEntity h suffixes).recover ?_
  intro e
  cases e with
  | fault f => simp
  | registry e => cases e <;> simp

theorem breaksOn_prepareReferrer (entity : SignedEntity) :
    BreaksOnFaulty f (prepareReferrer remote q entity) :=
  (breaksOn_built _).bind fun _ =>
    ((Remote.breaksOn_subjectDescriptor _ _).mapError (referrerFailure_eq_fault_iff _)).bind
      fun _ => Attempt.breaksOn_pure _

theorem breaksOn_prepareAs (format : Format) {entity : SignedEntity}
    (h : entity.artifact.hex? ≠ none) (repository : Repository) :
    BreaksOnFaulty f (prepareAs format remote q entity repository) := by
  cases format with
  | legacy =>
    exact (breaksOn_built _).bind fun _ =>
      ((Remote.breaksOn_tagFor h _).mapError (writeFailure_eq_fault_iff _)).bind fun _ =>
        Attempt.breaksOn_pure _
  | referrers => exact breaksOn_prepareReferrer entity
  | bundle =>
    rw [prepareAs]
    split
    · exact (breaksOn_built _).bind fun _ =>
        ((Remote.breaksOn_subjectDescriptor _ _).mapError (referrerFailure_eq_fault_iff _)).bind
          fun _ => Attempt.breaksOn_pure _
    · exact breaksOn_prepareReferrer entity

theorem breaksOn_prepare (h : q.artifact.hex? ≠ none) :
    BreaksOnFaulty f (prepare remote o q) := by
  refine (breaksOn_resolve h _).bind_of_yields ?_
  intro ys entity hentity
  exact breaksOn_prepareAs _ (by rwa [artifact_of_resolve hentity]) _

/-- Unless the fault is that of a value that cannot be written, it comes from the last exchange. -/
theorem breaksOn_storeWith (h : q.artifact.hex? ≠ none) (hf : ∀ e, f ≠ .unwritable e) :
    BreaksOnFaulty f (storeWith remote o q) := by
  intro xs r hxs
  rcases yields_storeWith.1 hxs with ⟨e, he, rfl⟩ | ⟨ys, zs, image, r', rfl, himage, hwrite, rfl⟩
  · simpa using breaksOn_prepare h he
  · rw [← (breaksOn_prepare h).append (Remote.breaksOn_writeImage hf _ _) himage hwrite]
    cases r' with
    | ok digest => simp [Except.map, Except.mapError]
    | error e => simp [Except.map, Except.mapError, pushFailure_eq_fault_iff]

/-- Everything that the image is made of was uploaded, and its manifest cannot be written. -/
def Unwritable (remote : RemoteOptions) (o : StoreOptions) (q : StoreRequest)
    (xs : List Exchange) (e : CanonicalFault) : Prop :=
  ∃ ys zs image config, xs = ys ++ zs ∧ Yields (prepare remote o q) ys (.ok image) ∧
    (image.placement.config image.layers).canonical = .ok config ∧
    Yields (Remote.uploadParts remote image.repository config image.layers) zs (.ok ()) ∧
    (imageManifest image.placement config image.layers).canonical = .error e

/-- A manifest that cannot be written makes the store end with a fault. -/
theorem Unwritable.yields {e : CanonicalFault} (h : Unwritable remote o q xs e) :
    Yields (storeWith remote o q) xs (.error (.fault (.unwritable e))) := by
  obtain ⟨ys, zs, image, config, rfl, himage, hconfig, hupload, hmanifest⟩ := h
  have hwrite : Yields (Remote.writeImage remote image.repository image.layers image.placement) zs
      (.error (.fault (.unwritable e))) := by
    rw [Remote.writeImage_eq]
    refine Attempt.yields_bind.2 (.inr ⟨[], zs, config, rfl,
      Remote.yields_canonical_ok.2 ⟨rfl, hconfig⟩, ?_⟩)
    refine Attempt.yields_bind.2 (.inr ⟨zs, [], (), (List.append_nil zs).symm, hupload, ?_⟩)
    exact Attempt.yields_bind.2 (.inl ⟨_, Remote.yields_canonical_error.2 ⟨rfl, e, hmanifest, rfl⟩,
      rfl⟩)
  have hfault : pushFailure (.routed o.format) q.kind (.fault (.unwritable e)) =
      .fault (.unwritable e) := (pushFailure_eq_fault_iff _ _ _).2 rfl
  refine yields_storeWith.2 (.inr ⟨ys, zs, image, _, rfl, himage, hwrite, ?_⟩)
  simp [Except.map, Except.mapError, hfault]

/-- A store ends with a value that cannot be written only if that is the manifest. -/
theorem yields_unwritable_iff (h : q.artifact.hex? ≠ none) {e : CanonicalFault}
    {r : Except StoreFailure Unit} (hxs : Yields (storeWith remote o q) xs r) :
    r = .error (.fault (.unwritable e)) ↔ Unwritable remote o q xs e := by
  refine ⟨fun hr => ?_, fun hunwritable => Session.yields_unique hxs hunwritable.yields⟩
  rcases yields_storeWith.1 hxs with ⟨e', he, rfl⟩ | ⟨ys, zs, image, r', rfl, himage, hwrite, rfl⟩
  · -- No exchange leads to that fault, so preparing does not end with it.
    obtain ⟨x, -, hfaulty⟩ := (breaksOn_prepare h he).1 ⟨_, rfl, Except.error.inj hr⟩
    cases hfaulty
  have hfailed : r' = .error (.fault (.unwritable e)) := by
    cases r' with
    | ok digest => cases hr
    | error e' => rw [(pushFailure_eq_fault_iff _ _ _).1 (Except.error.inj hr)]
  obtain ⟨config, hconfig, hcourse⟩ := Remote.writeCourse hwrite
  cases hcourse with
  | notUploaded hupload =>
    cases hfailed
    exact absurd rfl (Remote.ne_unwritable (Remote.breaksOn_uploadParts _ _) hupload)
  | unwritable hupload hmanifest =>
    cases hfailed
    exact ⟨ys, zs, image, config, rfl, himage, hconfig, hupload, hmanifest⟩
  | pushed hupload hmanifest =>
    exact absurd hfailed (Remote.ne_unwritable (Remote.breaksOn_putManifest _ _)
      (Remote.yields_ask.2 ⟨_, rfl, rfl⟩))

theorem yields_fault_iff (h : q.artifact.hex? ≠ none) {r : Except StoreFailure Unit}
    (hxs : Yields (storeWith remote o q) xs r) :
    r = .error (.fault f) ↔
      (∃ x, xs.getLast? = some x ∧ Faulty x f) ∨
        ∃ e, f = .unwritable e ∧ Unwritable remote o q xs e := by
  by_cases hf : ∃ e, f = .unwritable e
  · obtain ⟨e, rfl⟩ := hf
    rw [yields_unwritable_iff h hxs]
    constructor
    · exact fun hunwritable => .inr ⟨e, rfl, hunwritable⟩
    · rintro (⟨x, -, hfaulty⟩ | ⟨_, ⟨⟩, hunwritable⟩)
      · cases hfaulty
      · exact hunwritable
  · rw [not_exists] at hf
    have hbreaks := breaksOn_storeWith h hf hxs
    constructor
    · exact fun hr => .inl (hbreaks.1 ⟨_, hr, rfl⟩)
    · rintro (hfaulty | ⟨e, he, -⟩)
      · obtain ⟨_, hr, rfl⟩ := hbreaks.2 hfaulty
        exact hr
      · exact absurd he (hf e)

/-- Whatever the server does, the store of a parsed artifact ends with a fault exactly if its
last exchange leads to that fault, or the fault is that everything was uploaded and the manifest
cannot be written. -/
theorem fault_iff {σ : Type} (server : Session.Server σ) (state : σ) (remote : RemoteOptions)
    (o : StoreOptions) (q : StoreRequest) {reference : Text}
    (hparse : Artifact.parse reference = .ok q.artifact) (f : Fault) :
    (runStore server remote o q state).result = .error (.fault f) ↔
      (∃ x, (runStore server remote o q state).exchanges.getLast? = some x ∧ Faulty x f) ∨
        ∃ e, f = .unwritable e ∧
          Unwritable remote o q (runStore server remote o q state).exchanges e :=
  yields_fault_iff (Artifact.hex?_ne_none hparse)
    (Attempt.yields_run server (storeWith remote o q) state)

/-! ## A length that escapes -/

/-- A registry that tells the length of manifests with a digit that is no decimal digit. -/
def oddLength : ScriptedRegistry :=
  { rules :=
    [{ method := some "HEAD"
       contains := "/manifests/"
       reply := .response ⟨200, [("Docker-Content-Digest", "d"), ("Content-Type", "m"),
        ("Content-Length", "²")], []⟩ }] }

theorem result_oddLength :
    (runStore ScriptedRegistry.serve {} {} sampleRequest oddLength).result =
      .error (.fault (.integer (.notInteger "²"))) := by
  decide +kernel

theorem fault_iff_oddLength :
    Artifact.parse sampleReference = .ok sampleRequest.artifact ∧
    (runStore ScriptedRegistry.serve {} {} sampleRequest oddLength).result =
      .error (.fault (.integer (.notInteger "²"))) ∧
    ((∃ x, (runStore ScriptedRegistry.serve {} {} sampleRequest oddLength).exchanges.getLast? =
      some x ∧ Faulty x (.integer (.notInteger "²"))) ∨
      ∃ e, Fault.integer (.notInteger "²") = .unwritable e ∧ Unwritable {} {} sampleRequest
        (runStore ScriptedRegistry.serve {} {} sampleRequest oddLength).exchanges e) :=
  ⟨parse_sampleReference, result_oddLength, (fault_iff ScriptedRegistry.serve oddLength {} {}
    sampleRequest parse_sampleReference _).1 result_oddLength⟩

/-- Not every failure of a store names a stage. -/
theorem fault_escapes :
    ¬ ∀ (state : ScriptedRegistry) (remote : RemoteOptions) (o : StoreOptions) (q : StoreRequest)
      (reference : Text), Artifact.parse reference = .ok q.artifact →
      ∀ f, (runStore ScriptedRegistry.serve remote o q state).result ≠ .error (.fault f) :=
  fun h => h oddLength {} {} sampleRequest sampleReference parse_sampleReference _ result_oddLength

end Storing
end Signet
