import Mathlib
import Signet.Proofs.Remote.Subject
import Signet.Proofs.Registry.Growth
import Signet.Proofs.Storage.Prepared
import Signet.Registry.Script

/-!
# Failures before anything is written

A store ends in one of three phases: it does not resolve the artifact, it does not prepare the
image, or it writes the image. The first two only read. The failures that name a resolution, a
build or an unsupported format come from them, each from a place of its own: from the
resolution, from what is done right behind it, and from the probe for referrers.

## Main definitions

* `Storing.PrepareCourse` — the courses of preparing an image in the way of a format.
* `Storing.StoreCourse` — the courses of a store by the phase in which they end.
-/
namespace Signet

/-- The store failed while it resolved the artifact, built the object, or because referrers are
not listed. -/
def StoreFailure.IsEarly : StoreFailure → Prop
  | .storage (.resolution _) | .storage (.build _) | .storage (.unsupported _) => True
  | .storage (.write _ _) | .fault _ => False

namespace Storing

open Attempt (Yields Sends)

variable {remote : RemoteOptions} {o : StoreOptions} {q : StoreRequest} {xs : List Exchange}

/-! ## The phases of a store -/

/-- The courses of preparing an image in the way of a format, with their results. -/
inductive PrepareCourse (remote : RemoteOptions) (q : StoreRequest) (format : Format)
    (entity : SignedEntity) : List Exchange → Except StoreFailure ReadyImage → Prop where
  /-- The object cannot be built. -/
  | unbuilt (e : BuildError) :
    PrepareCourse remote q format entity [] (.error (.storage (.build e)))
  /-- The artifact has no tag. -/
  | untagged (f : Fault) : PrepareCourse remote q format entity [] (.error (.fault f))
  /-- The image is put under a tag. -/
  | tagged (image : ReadyImage) (hformat : format = .legacy) :
    PrepareCourse remote q format entity [] (.ok image)
  /-- The subject is described: it is that of the entity if that is known, unless it is asked for
  in any case. -/
  | described {xs : List Exchange} {r : Except RemoteFailure Descriptor} (stage : WriteStage)
    (image : Descriptor → ReadyImage) (known : Option Descriptor)
    (hknown : known = none ∨ known = (entity.descriptor.filter fun _ => entity.known))
    (hsubject : ∀ d, ∃ artifactType annotations,
      (image d).placement = .subject d artifactType annotations)
    (h : Remote.SubjectCourse remote q.artifact known xs r) :
    PrepareCourse remote q format entity xs ((r.map image).mapError (referrerFailure stage))

/-- Building sends nothing: it fails, or the store goes on with what is built. -/
theorem yields_built_bind {α β : Type} {r : Except BuildError α} {f : α → Storing β}
    {r' : Except StoreFailure β} (h : Yields (built r >>= f) xs r') :
    (∃ e, xs = [] ∧ r' = .error (.storage (.build e))) ∨ ∃ a, r = .ok a ∧ Yields (f a) xs r' := by
  rcases Attempt.yields_bind.1 h with ⟨e, ⟨rfl, he⟩, rfl⟩ | ⟨_, zs, a, rfl, ⟨rfl, ha⟩, hnext⟩
  · cases r with
    | ok a => cases he
    | error e' =>
      cases he
      exact .inl ⟨e', rfl, rfl⟩
  · cases r with
    | error e' => cases ha
    | ok a' =>
      cases ha
      exact .inr ⟨a, rfl, hnext⟩

/-- The subject of an entity is known if the entity is. -/
theorem subject_known (entity : SignedEntity) :
    ((some entity).filter SignedEntity.known).bind SignedEntity.descriptor =
      entity.descriptor.filter fun _ => entity.known := by
  rcases entity with ⟨artifact, _ | d, signatures, attestations, _ | _⟩ <;> rfl

/-- Describing a subject and putting an image there is a course of preparing. -/
theorem prepareCourse_describe {format : Format} {entity : SignedEntity} (stage : WriteStage)
    {known : Option SignedEntity} {image : Descriptor → ReadyImage}
    {r : Except StoreFailure ReadyImage}
    (hknown : known = none ∨ ∃ e, known = some e ∧ e.descriptor = entity.descriptor ∧
      e.known = entity.known)
    (hsubject : ∀ d, ∃ artifactType annotations,
      (image d).placement = .subject d artifactType annotations)
    (h : Yields ((Remote.subjectDescriptor remote q.artifact known).mapError
      (referrerFailure stage) >>= fun d => pure (image d)) xs r) :
    PrepareCourse remote q format entity xs r := by
  have hknown' : (known.filter SignedEntity.known).bind SignedEntity.descriptor = none ∨
      (known.filter SignedEntity.known).bind SignedEntity.descriptor =
        entity.descriptor.filter fun _ => entity.known := by
    rcases hknown with rfl | ⟨e, rfl, hd, hk⟩
    · exact .inl rfl
    · exact .inr (by rw [subject_known, hd, hk])
  rcases Attempt.yields_bind.1 h with ⟨e, he, rfl⟩ | ⟨_, _, d, rfl, hd, rfl, rfl⟩
  · obtain ⟨r', hr', hmap⟩ := Attempt.yields_mapError.1 he
    cases r' with
    | ok d => cases hmap
    | error e' =>
      cases hmap
      exact .described stage image _ hknown' hsubject (Remote.subjectCourse hr')
  · obtain ⟨r', hr', hmap⟩ := Attempt.yields_mapError.1 hd
    cases r' with
    | error e' => cases hmap
    | ok d' =>
      cases hmap
      rw [List.append_nil]
      exact .described stage image _ hknown' hsubject (Remote.subjectCourse hr')

theorem prepareCourse_referrer {format : Format} {entity : SignedEntity}
    {r : Except StoreFailure ReadyImage} (h : Yields (prepareReferrer remote q entity) xs r) :
    PrepareCourse remote q format entity xs r := by
  rcases yields_built_bind h with ⟨e, rfl, rfl⟩ | ⟨layer, -, hdescribe⟩
  · exact .unbuilt e
  · refine prepareCourse_describe _ (.inr ⟨_, rfl, ?_, ?_⟩) (fun d => ⟨_, _, rfl⟩) hdescribe
    · cases q.kind <;> rfl
    · cases q.kind <;> rfl

theorem prepareCourse_bundle {format : Format} {entity : SignedEntity}
    {r : Except StoreFailure ReadyImage} (h : Yields (prepareBundle remote q) xs r) :
    PrepareCourse remote q format entity xs r := by
  rcases yields_built_bind h with ⟨e, rfl, rfl⟩ | ⟨envelope, -, hdescribe⟩
  · exact .unbuilt e
  · exact prepareCourse_describe _ (.inl rfl) (fun d => ⟨_, _, rfl⟩) hdescribe

theorem prepareCourse_tagged {entity : SignedEntity} {repository : Repository}
    {r : Except StoreFailure ReadyImage} (h : Yields (prepareTagged q entity repository) xs r) :
    PrepareCourse remote q .legacy entity xs r := by
  rcases yields_built_bind h with ⟨e, rfl, rfl⟩ | ⟨layer, -, htag⟩
  · exact .unbuilt e
  rw [Remote.tagFor] at htag
  cases htagged : entity.artifact.tag? q.kind.suffix with
  | some tag =>
    rw [htagged] at htag
    obtain ⟨rfl, rfl⟩ := htag
    exact .tagged _ rfl
  | none =>
    rw [htagged] at htag
    obtain ⟨rfl, rfl⟩ := htag
    exact .untagged _

theorem prepareCourse {format : Format} {entity : SignedEntity} {repository : Repository}
    {r : Except StoreFailure ReadyImage}
    (h : Yields (prepareAs format remote q entity repository) xs r) :
    PrepareCourse remote q format entity xs r := by
  cases format with
  | legacy => exact prepareCourse_tagged h
  | referrers => exact prepareCourse_referrer h
  | bundle =>
    rw [prepareAs] at h
    split at h
    · exact prepareCourse_bundle h
    · exact prepareCourse_referrer h

abbrev runResolve {σ : Type} (server : Session.Server σ) (remote : RemoteOptions)
    (o : StoreOptions) (q : StoreRequest) (state : σ) :
    Session.Run σ (Except StoreFailure SignedEntity) :=
  Session.run server
    (resolve remote q.artifact (neededSuffixes (.routed o.format) q.kind)).run state

/-- The courses of a store by the phase in which they end, with their results. -/
inductive StoreCourse (remote : RemoteOptions) (o : StoreOptions) (q : StoreRequest) :
    List Exchange → Except StoreFailure Unit → Prop where
  | unresolved {xs : List Exchange} {e : StoreFailure}
    (h : Yields (resolve remote q.artifact (neededSuffixes (.routed o.format) q.kind)) xs
      (.error e)) : StoreCourse remote o q xs (.error e)
  | unprepared {ys zs : List Exchange} {entity : SignedEntity} {e : StoreFailure}
    (hresolve : Yields (resolve remote q.artifact (neededSuffixes (.routed o.format) q.kind)) ys
      (.ok entity))
    (h : PrepareCourse remote q (.routed o.format) entity zs (.error e)) :
    StoreCourse remote o q (ys ++ zs) (.error e)
  | written {ys zs ws : List Exchange} {entity : SignedEntity} {image : ReadyImage}
    {r : Except RemoteFailure Text}
    (hresolve : Yields (resolve remote q.artifact (neededSuffixes (.routed o.format) q.kind)) ys
      (.ok entity))
    (hprepare : PrepareCourse remote q (.routed o.format) entity zs (.ok image))
    (h : Yields (Remote.writeImage remote image.repository image.layers image.placement) ws r) :
    StoreCourse remote o q (ys ++ (zs ++ ws))
      ((r.map fun _ => ()).mapError (pushFailure (.routed o.format) q.kind))

theorem storeCourse_phases {r : Except StoreFailure Unit} (h : Yields (storeWith remote o q) xs r) :
    StoreCourse remote o q xs r := by
  rcases yields_storeWith.1 h with ⟨e, he, rfl⟩ | ⟨ys, ws, image, r', rfl, himage, hwrite, rfl⟩
  · rcases Attempt.yields_bind.1 he with ⟨e', he', hsame⟩ | ⟨ys, zs, entity, rfl, hresolve, hzs⟩
    · cases hsame
      exact .unresolved he'
    · exact .unprepared hresolve (prepareCourse hzs)
  · obtain ⟨ys, zs, entity, rfl, hresolve, hzs⟩ := Attempt.yields_bind_ok.1 himage
    rw [List.append_assoc]
    exact .written hresolve (prepareCourse hzs) hwrite

/-! ## What the phases show -/

theorem fetches_resolve (artifact : Artifact) (suffixes : List Text) :
    Sends (Remote.Fetches remote artifact.repository fun reference =>
      reference = artifact.digest ∨ ∃ kind : Kind, artifact.tag? kind.suffix = some reference)
      (resolve remote artifact suffixes) :=
  (Remote.fetches_signedEntity artifact suffixes).recover _

theorem fails_resolve (artifact : Artifact) (suffixes : List Text) :
    Attempt.Fails (fun e => (∃ cause, e = .storage (.resolution cause)) ∨ ∃ f, e = .fault f)
      (resolve remote artifact suffixes) := by
  intro xs e hxs
  rcases Attempt.yields_recover.1 hxs with ⟨a, -, he⟩ | ⟨e', -, he⟩
  · cases he
  · split at he
    · cases he
    · cases he
      exact .inl ⟨_, rfl⟩
    · cases he
      exact .inr ⟨_, rfl⟩

theorem referrerFailure_cases (stage : WriteStage) (e : RemoteFailure) :
    (e.IsUnsupported ∧ referrerFailure stage e = .storage (.unsupported stage)) ∨
      (¬ e.IsUnsupported ∧ referrerFailure stage e = writeFailure stage e) := by
  by_cases h : e.IsUnsupported
  · obtain ⟨registry, rfl⟩ := h
    exact .inl ⟨⟨registry, rfl⟩, rfl⟩
  · refine .inr ⟨h, ?_⟩
    unfold referrerFailure
    split
    · exact absurd ⟨_, rfl⟩ h
    · rfl

theorem not_isEarly_writeFailure (stage : WriteStage) (e : RemoteFailure) :
    ¬ (writeFailure stage e).IsEarly := by
  cases e <;> exact id

/-- A failure to write an image is early only if referrers are said not to be listed. -/
theorem not_isEarly_pushFailure (format : Format) (kind : Kind) {e : RemoteFailure}
    (h : ¬ e.IsUnsupported) : ¬ (pushFailure format kind e).IsEarly := by
  have hreferrer (stage : WriteStage) : ¬ (referrerFailure stage e).IsEarly := by
    rcases referrerFailure_cases stage e with ⟨hunsupported, -⟩ | ⟨-, hsame⟩
    · exact absurd hunsupported h
    · rw [hsame]
      exact not_isEarly_writeFailure stage e
  cases format with
  | legacy => exact not_isEarly_writeFailure _ e
  | referrers => exact hreferrer _
  | bundle =>
    rw [pushFailure]
    split <;> exact hreferrer _

section PrepareCourse

variable {format : Format} {entity : SignedEntity} {r : Except StoreFailure ReadyImage}

/-- Preparing sends nothing, or the probe and then questions for the subject. -/
theorem PrepareCourse.probed (h : PrepareCourse remote q format entity xs r) :
    xs = [] ∨ ∃ reply ys,
      xs = (Remote.probeRequest remote q.artifact.repository q.artifact.digest, reply) :: ys ∧
      ∀ y ∈ ys, Remote.Fetches remote q.artifact.repository (· = q.artifact.digest) y.1 := by
  cases h with
  | unbuilt _ | untagged _ | tagged _ _ => exact .inl rfl
  | described _ _ _ _ _ h => exact .inr h.probed

theorem PrepareCourse.reads (h : PrepareCourse remote q format entity xs r) :
    ∀ x ∈ xs, x.1.Reads := by
  cases h with
  | unbuilt _ | untagged _ | tagged _ _ => simp
  | described _ _ _ _ _ h => exact h.reads

theorem PrepareCourse.unsupported_iff (h : PrepareCourse remote q format entity xs r) :
    (∃ stage, r = .error (.storage (.unsupported stage))) ↔
      ∃ p, (Remote.probeRequest remote q.artifact.repository q.artifact.digest, .received p) ∈ xs ∧
        (p.status = 404 ∨ p.status = 405) := by
  cases h with
  | unbuilt _ | untagged _ | tagged _ _ => simp
  | @described xs r stage image known hknown hsubject h =>
    rw [← h.isUnsupported_iff]
    cases r with
    | ok d => simp [Except.map, Except.mapError]
    | error e =>
      rcases referrerFailure_cases stage e with ⟨hunsupported, heq⟩ | ⟨hother, heq⟩
      · simp [Except.map, Except.mapError, heq, hunsupported]
      · have hne (stage' : WriteStage) : writeFailure stage e ≠ .storage (.unsupported stage') := by
          cases e <;> simp [writeFailure]
        simp [Except.map, Except.mapError, heq, hother, hne]

/-- A subject that is answered to be missing is a failure to write. -/
theorem PrepareCourse.missing_subject (h : PrepareCourse remote q format entity xs r)
    {reply : Reply} {ys : List Exchange}
    (hxs : xs = (Remote.probeRequest remote q.artifact.repository q.artifact.digest, reply) :: ys)
    {request : Request} {p : Response} (hx : (request, .received p) ∈ ys) (hp : p.status = 404) :
    ∃ stage, r = .error (.storage
      (.write stage (.missing q.artifact.repository q.artifact.digest))) := by
  cases h with
  | unbuilt _ | untagged _ | tagged _ _ => cases hxs
  | described stage _ _ _ _ h =>
    rw [h.eq_missing hxs hx hp]
    exact ⟨stage, rfl⟩

end PrepareCourse

section StoreCourse

variable {r : Except StoreFailure Unit} {e : StoreFailure}

theorem StoreCourse.reads_of_isEarly (h : StoreCourse remote o q xs (.error e)) (he : e.IsEarly) :
    ∀ x ∈ xs, x.1.Reads := by
  generalize hr : (Except.error e : Except StoreFailure Unit) = r at h
  cases h with
  | unresolved h => exact sends_resolve _ _ h
  | unprepared hresolve h =>
    intro x hx
    rcases List.mem_append.1 hx with hx | hx
    · exact sends_resolve _ _ hresolve x hx
    · exact h.reads x hx
  | @written _ _ _ _ _ r _ _ h =>
    cases r with
    | ok digest => cases hr
    | error e' =>
      cases hr
      exact absurd he (not_isEarly_pushFailure _ _ (Remote.fails_writeImage _ _ h))

/-- What cannot be built is found out right behind the resolution. -/
theorem StoreCourse.resolved_of_build {cause : BuildError}
    (h : StoreCourse remote o q xs (.error (.storage (.build cause)))) :
    ∃ entity, Yields (resolve remote q.artifact (neededSuffixes (.routed o.format) q.kind)) xs
      (.ok entity) := by
  generalize hr : (Except.error (.storage (.build cause)) : Except StoreFailure Unit) = r at h
  cases h with
  | unresolved h =>
    cases hr
    rcases fails_resolve _ _ h with ⟨_, hsame⟩ | ⟨_, hsame⟩ <;> cases hsame
  | @unprepared ys zs entity e hresolve h =>
    cases hr
    generalize hr' : (Except.error (.storage (.build cause)) : Except StoreFailure ReadyImage) = r'
      at h
    cases h with
    | unbuilt _ => exact ⟨entity, by rwa [List.append_nil]⟩
    | untagged _ | tagged _ _ => cases hr'
    | @described zs r' stage image known hknown hsubject h =>
      cases r' with
      | ok d => cases hr'
      | error e' =>
        rcases referrerFailure_cases stage e' with ⟨-, heq⟩ | ⟨-, heq⟩
        · simp [Except.map, Except.mapError, heq] at hr'
        · cases e' <;> simp [Except.map, Except.mapError, heq, writeFailure] at hr'
  | @written _ _ _ _ _ r' _ _ h =>
    cases r' with
    | ok digest => cases hr
    | error e' =>
      simp only [Except.map, Except.mapError, Except.error.injEq] at hr
      have hlate := not_isEarly_pushFailure (.routed o.format) q.kind
        (Remote.fails_writeImage _ _ h)
      rw [← hr] at hlate
      exact absurd trivial hlate

/-- The resolution and the writing do not send the probe. -/
theorem probe_notMem_resolve {ys : List Exchange} {suffixes : List Text}
    {r' : Except StoreFailure SignedEntity} (h : Yields (resolve remote q.artifact suffixes) ys r')
    (reply : Reply) :
    (Remote.probeRequest remote q.artifact.repository q.artifact.digest, reply) ∉ ys :=
  fun hx => (fetches_resolve _ _ h _ hx).not_asksForIndex (Remote.asksForIndex_probeRequest _)

theorem probe_notMem_writeImage {ws : List Exchange} {image : ReadyImage}
    {r' : Except RemoteFailure Text}
    (h : Yields (Remote.writeImage remote image.repository image.layers image.placement) ws r')
    (reply : Reply) :
    (Remote.probeRequest remote q.artifact.repository q.artifact.digest, reply) ∉ ws :=
  fun hx => Remote.accept_notMem_writeImage _ _ _ h _ hx (Remote.asksForIndex_probeRequest _)

theorem StoreCourse.unsupported_iff (h : StoreCourse remote o q xs r) :
    (∃ stage, r = .error (.storage (.unsupported stage))) ↔
      ∃ p, (Remote.probeRequest remote q.artifact.repository q.artifact.digest, .received p) ∈ xs ∧
        (p.status = 404 ∨ p.status = 405) := by
  cases h with
  | unresolved h =>
    constructor
    · rintro ⟨stage, hstage⟩
      cases hstage
      rcases fails_resolve _ _ h with ⟨_, hsame⟩ | ⟨_, hsame⟩ <;> cases hsame
    · rintro ⟨p, hp, -⟩
      exact absurd hp (probe_notMem_resolve h _)
  | @unprepared ys zs entity e hresolve h =>
    have hprepare := h.unsupported_iff
    simp only [Except.error.injEq] at hprepare ⊢
    simp [hprepare, probe_notMem_resolve hresolve]
  | @written ys zs ws entity image r' hresolve hprepare h =>
    constructor
    · rintro ⟨stage, hstage⟩
      cases r' with
      | ok digest => cases hstage
      | error e' =>
        simp only [Except.map, Except.mapError, Except.error.injEq] at hstage
        have hlate := not_isEarly_pushFailure (.routed o.format) q.kind
          (Remote.fails_writeImage _ _ h)
        rw [hstage] at hlate
        exact absurd trivial hlate
    · rintro ⟨p, hp, hstatus⟩
      simp only [List.mem_append, probe_notMem_resolve hresolve, probe_notMem_writeImage h,
        false_or, or_false] at hp
      obtain ⟨stage, hstage⟩ := hprepare.unsupported_iff.2 ⟨p, hp, hstatus⟩
      cases hstage

/-- The probe is sent once, so what stands behind it is what preparing and writing send
behind it. -/
theorem PrepareCourse.behind_probe {format : Format} {entity : SignedEntity}
    {r' : Except StoreFailure ReadyImage} {ys zs ws before after : List Exchange} {reply : Reply}
    (h : PrepareCourse remote q format entity zs r')
    (hys : (Remote.probeRequest remote q.artifact.repository q.artifact.digest, reply) ∉ ys)
    (hws : (Remote.probeRequest remote q.artifact.repository q.artifact.digest, reply) ∉ ws)
    (hxs : ys ++ (zs ++ ws) = before ++
      (Remote.probeRequest remote q.artifact.repository q.artifact.digest, reply) :: after) :
    ∃ zs', zs = (Remote.probeRequest remote q.artifact.repository q.artifact.digest, reply) :: zs' ∧
      after = zs' ++ ws := by
  rcases h.probed with rfl | ⟨reply', zs', rfl, hzs'⟩
  · have hmem : (Remote.probeRequest remote q.artifact.repository q.artifact.digest, reply) ∈
        ys ++ ([] ++ ws) := by
      rw [hxs]
      simp
    simp [hys, hws] at hmem
  · have hzs : (Remote.probeRequest remote q.artifact.repository q.artifact.digest, reply) ∉
        zs' ++ ws := by
      rw [List.mem_append, not_or]
      exact ⟨fun hz => (hzs' _ hz).not_asksForIndex (Remote.asksForIndex_probeRequest _), hws⟩
    obtain ⟨-, hsame, hafter⟩ := (List.append_cons_inj_of_notMem hys hzs).1 hxs
    exact ⟨zs', by rw [hsame], hafter.symm⟩

/-- A subject that is answered to be missing behind the probe is a failure to write. -/
theorem StoreCourse.missing_subject (h : StoreCourse remote o q xs r) {before after : List Exchange}
    {reply : Reply} {method : Method} {p : Response}
    (hxs : xs = before ++
      (Remote.probeRequest remote q.artifact.repository q.artifact.digest, reply) :: after)
    (hx : (Remote.manifestRequest remote method q.artifact.repository q.artifact.digest,
      .received p) ∈ after) (hp : p.status = 404) :
    (∃ stage, r = .error (.storage
      (.write stage (.missing q.artifact.repository q.artifact.digest)))) ∧
    ∀ x ∈ xs, x.1.Reads := by
  cases h with
  | unresolved h =>
    refine absurd ?_ (probe_notMem_resolve h reply)
    simp [hxs]
  | @unprepared ys zs entity e hresolve h =>
    rw [← List.append_nil zs] at hxs
    obtain ⟨zs', rfl, rfl⟩ := h.behind_probe (probe_notMem_resolve hresolve reply)
      List.not_mem_nil hxs
    rw [List.append_nil] at hx
    obtain ⟨stage, hstage⟩ := h.missing_subject rfl hx hp
    cases hstage
    refine ⟨⟨stage, rfl⟩, ?_⟩
    intro x hx
    rcases List.mem_append.1 hx with hx | hx
    · exact sends_resolve _ _ hresolve x hx
    · exact h.reads x hx
  | @written ys zs ws entity image r' hresolve hprepare h =>
    -- The subject was described, since the image was written.
    obtain ⟨zs', rfl, rfl⟩ := hprepare.behind_probe (probe_notMem_resolve hresolve reply)
      (probe_notMem_writeImage h reply) hxs
    rcases List.mem_append.1 hx with hx | hx
    · obtain ⟨stage, hstage⟩ := hprepare.missing_subject rfl hx hp
      cases hstage
    · exact absurd (Remote.asksForManifest_manifestRequest _ _)
        (Remote.accept_notMem_writeImage _ _ _ h _ hx)

end StoreCourse

/-! ## Early failures -/

/-- Requests that only read leave the registry as it was, whatever its rules answer. -/
theorem registry_of_reads {s s' : ScriptedRegistry}
    (h : Session.Served ScriptedRegistry.serve s xs s') (hreads : ∀ x ∈ xs, x.1.Reads) :
    s'.registry = s.registry := by
  induction xs generalizing s with
  | nil => rw [h]
  | cons x xs ih =>
    obtain ⟨-, h⟩ := h
    rw [ih h fun y hy => hreads y (List.mem_cons_of_mem _ hy)]
    rw [ScriptedRegistry.serve]
    split
    · rfl
    · rfl
    · exact Registry.state_of_reads (hreads x List.mem_cons_self)

/-- Whatever the server does, a store that does not resolve the artifact, does not build the
object or finds no lists of referrers has only read, and left the registry as it was. What
cannot be built is found out before any request that follows the resolution. The format is
unsupported exactly if the probe for referrers is answered with status 404 or 405. A subject that
is answered to be missing behind the probe is a failure to write, again after only reading. -/
theorem early_failures_read {σ : Type} (server : Session.Server σ) (state : σ)
    (remote : RemoteOptions) (o : StoreOptions) (q : StoreRequest) :
    (∀ e, (runStore server remote o q state).result = .error e → e.IsEarly →
      ∀ x ∈ (runStore server remote o q state).exchanges, x.1.Reads) ∧
    (∀ (s : ScriptedRegistry) (e : StoreFailure),
      (runStore ScriptedRegistry.serve remote o q s).result = .error e → e.IsEarly →
        (runStore ScriptedRegistry.serve remote o q s).state.registry = s.registry) ∧
    (∀ cause, (runStore server remote o q state).result = .error (.storage (.build cause)) →
      (∃ entity, (runResolve server remote o q state).result = .ok entity) ∧
        (runStore server remote o q state).exchanges =
          (runResolve server remote o q state).exchanges) ∧
    ((∃ stage, (runStore server remote o q state).result =
        .error (.storage (.unsupported stage))) ↔
      ∃ p, (Remote.probeRequest remote q.artifact.repository q.artifact.digest, .received p) ∈
        (runStore server remote o q state).exchanges ∧ (p.status = 404 ∨ p.status = 405)) ∧
    (∀ before after reply method p,
      (runStore server remote o q state).exchanges = before ++
        (Remote.probeRequest remote q.artifact.repository q.artifact.digest, reply) :: after →
      (Remote.manifestRequest remote method q.artifact.repository q.artifact.digest,
        .received p) ∈ after → p.status = 404 →
      (∃ stage, (runStore server remote o q state).result = .error (.storage
        (.write stage (.missing q.artifact.repository q.artifact.digest)))) ∧
        ∀ x ∈ (runStore server remote o q state).exchanges, x.1.Reads) := by
  have hcourse {τ : Type} (server : Session.Server τ) (state : τ) :
      StoreCourse remote o q (runStore server remote o q state).exchanges
        (runStore server remote o q state).result :=
    storeCourse_phases (Attempt.yields_run server (storeWith remote o q) state)
  refine ⟨?reads, ?unchanged, ?build, (hcourse server state).unsupported_iff, ?missing⟩
  case reads =>
    intro e he hearly
    have hstore := hcourse server state
    rw [he] at hstore
    exact hstore.reads_of_isEarly hearly
  case unchanged =>
    intro s e he hearly
    have hstore := hcourse ScriptedRegistry.serve s
    rw [he] at hstore
    exact registry_of_reads (Session.served_run _ _ _) (hstore.reads_of_isEarly hearly)
  case build =>
    intro cause hbuild
    have hstore := hcourse server state
    rw [hbuild] at hstore
    obtain ⟨entity, hentity⟩ := hstore.resolved_of_build
    obtain ⟨hresult, -, hexchanges⟩ :=
      Session.run_eq_of_yields hentity (Session.served_run server (storeWith remote o q).run state)
    exact ⟨⟨entity, hresult⟩, hexchanges.symm⟩
  case missing =>
    intro before after reply method p hxs hx hp
    exact (hcourse server state).missing_subject hxs hx hp

end Storing
end Signet
