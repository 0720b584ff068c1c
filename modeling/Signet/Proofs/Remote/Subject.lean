import Mathlib
import Signet.Proofs.Remote.Image

/-!
# Courses of describing a subject

Before an image is put at its subject, the registry is probed for lists of referrers. The
probe asks for an index of manifests, which no other request does, so it is told apart from
all other exchanges. Behind a probe that succeeds, the subject is described by what is known
of it, or else its manifest is asked for, and its digest is the one that the answer tells.

## Main definitions

* `Remote.HeadCourse`, `Remote.SubjectCourse` — the courses of describing a manifest and of
  describing a subject, with their results.
* `Remote.toldDigest?` — the digest that the answer to a question for a manifest tells.
-/
namespace Signet

/-- The failure says that the registry does not list referrers. -/
def RemoteFailure.IsUnsupported (e : RemoteFailure) : Prop :=
  ∃ registry, e = .registry (.withoutReferrers registry)

namespace Remote

open Attempt (Yields Sends Fails)

variable {α : Type} {o : RemoteOptions} {repository : Repository} {xs : List Exchange}

/-! ## Describing a manifest -/

/-- The courses of describing a manifest, with their results. -/
inductive HeadCourse (o : RemoteOptions) (repository : Repository) (reference : Text) :
    List Exchange → Except RemoteFailure Descriptor → Prop where
  /-- The answer without a body decides. -/
  | headers {reply : Reply} {r : Except RemoteFailure Descriptor}
    (h : understood (manifestRequest o .head repository reference)
      (readHeaders repository reference) reply = r.map some) :
    HeadCourse o repository reference [(manifestRequest o .head repository reference, reply)] r
  /-- Its headers are incomplete, and the answer with the manifest decides. -/
  | fetched {p : Response} {reply : Reply} {r : Except RemoteFailure (Json.Members × Descriptor)}
    (h : readHeaders repository reference p = .ok none)
    (hget : understood (manifestRequest o .get repository reference)
      (readManifest repository reference) reply = r) :
    HeadCourse o repository reference
      [(manifestRequest o .head repository reference, .received p),
       (manifestRequest o .get repository reference, reply)] (r.map Prod.snd)

theorem headCourse {reference : Text} {r : Except RemoteFailure Descriptor}
    (h : Yields (headManifest o repository reference) xs r) :
    HeadCourse o repository reference xs r := by
  rcases Attempt.yields_bind.1 h with ⟨e, he, rfl⟩ | ⟨ys, zs, described, rfl, hhead, hnext⟩
  · obtain ⟨reply, rfl, hreply⟩ := yields_ask.1 he
    exact .headers hreply.symm
  obtain ⟨reply, rfl, hreply⟩ := yields_ask.1 hhead
  cases described with
  | some descriptor =>
    obtain ⟨rfl, rfl⟩ := hnext
    exact .headers hreply.symm
  | none =>
    obtain ⟨p, rfl, hp⟩ := understood_eq_ok_iff.1 hreply.symm
    rcases Attempt.yields_bind.1 hnext with ⟨e, he, rfl⟩ | ⟨_, _, found, rfl, hget, rfl, rfl⟩
    · obtain ⟨reply', rfl, hreply'⟩ := yields_ask.1 he
      exact .fetched hp hreply'.symm
    · obtain ⟨reply', rfl, hreply'⟩ := yields_ask.1 hget
      exact .fetched hp hreply'.symm

theorem checkManifest_of_missing {reference : Text} {p : Response} (h : p.status = 404) :
    checkManifest repository reference p = .error (.registry (.missing repository reference)) :=
  if_pos h

/-- A manifest that is answered to be missing is not described. -/
theorem HeadCourse.eq_missing {reference : Text} {r : Except RemoteFailure Descriptor}
    (h : HeadCourse o repository reference xs r) {q : Request} {p : Response}
    (hx : (q, .received p) ∈ xs) (hp : p.status = 404) :
    r = .error (.registry (.missing repository reference)) := by
  cases h with
  | headers h =>
    obtain ⟨-, rfl⟩ := Prod.mk.inj (List.mem_singleton.1 hx)
    rw [understood_received, readHeaders, checkManifest_of_missing hp] at h
    cases r with
    | error e =>
      cases h
      rfl
    | ok d => cases h
  | @fetched p' _ _ h hget =>
    rcases List.mem_cons.1 hx with hx | hx
    · -- The headers were read, so the manifest was there.
      obtain ⟨-, hsame⟩ := Prod.mk.inj hx
      cases hsame
      rw [readHeaders, checkManifest_of_missing hp] at h
      cases h
    · obtain ⟨-, rfl⟩ := Prod.mk.inj (List.mem_singleton.1 hx)
      rw [← hget, understood_received, readManifest, checkManifest_of_missing hp]
      rfl

/-- The digest that an answer tells of a manifest: that of the body, or if there is no body, the
one in a header. -/
def toldDigest? (x : Exchange) : Option Text :=
  match x.2 with
  | .failure _ => none
  | .received p =>
    if x.1.method = .head then p.header? "Docker-Content-Digest" else some (sha256Digest p.body)

theorem readHeaders_digest {reference : Text} {p : Response} {d : Descriptor}
    (h : readHeaders repository reference p = .ok (some d)) :
    p.header? "Docker-Content-Digest" = some d.digest := by
  rw [readHeaders] at h
  cases hcheck : checkManifest repository reference p with
  | error e =>
    rw [hcheck] at h
    cases h
  | ok u =>
    rw [hcheck] at h
    dsimp only [Bind.bind, Except.bind] at h
    split at h
    · cases h
    · rename_i descriptor hdescribe
      cases h
      rw [describeByHeaders] at hdescribe
      split at hdescribe
      · rename_i digest mediaType length hdigest _ _
        split at hdescribe
        · cases hdescribe
        · cases hread : Decimal.readInt length with
          | error e =>
            rw [hread] at hdescribe
            cases hdescribe
          | ok size =>
            rw [hread] at hdescribe
            cases hdescribe
            exact hdigest
      · cases hdescribe
    · cases h

theorem readManifest_digest {reference : Text} {p : Response} {found : Json.Members × Descriptor}
    (h : readManifest repository reference p = .ok found) :
    found.2.digest = sha256Digest p.body := by
  rw [((readManifest_eq_ok_iff (status_of_readManifest h)).1 h).2]

/-- The last answer tells the digest of the manifest that is described. -/
theorem HeadCourse.told {reference : Text} {d : Descriptor}
    (h : HeadCourse o repository reference xs (.ok d)) :
    ∃ ys method reply, xs = ys ++ [(manifestRequest o method repository reference, reply)] ∧
      method.isSafe = true ∧
      toldDigest? (manifestRequest o method repository reference, reply) = some d.digest := by
  generalize hr : (Except.ok d : Except RemoteFailure Descriptor) = r at h
  cases h with
  | headers h =>
    cases hr
    obtain ⟨p, rfl, hp⟩ := understood_eq_ok_iff.1 h
    exact ⟨[], .head, _, rfl, rfl, readHeaders_digest hp⟩
  | @fetched _ _ r _ hget =>
    cases r with
    | error e => cases hr
    | ok found =>
      cases hr
      obtain ⟨p, rfl, hp⟩ := understood_eq_ok_iff.1 hget
      exact ⟨[_], .get, _, rfl, rfl, congrArg some (readManifest_digest hp).symm⟩

/-! ## Describing a subject -/

theorem readSupport_eq_ok_iff {digest : Text} {p : Response} {b : Bool} :
    readSupport repository digest p = .ok b ↔
      if b then p.status = 200 else p.status = 404 ∨ p.status = 405 := by
  unfold readSupport
  split_ifs <;> simp_all

/-- The courses of describing a subject of which a descriptor may be known, with their results. -/
inductive SubjectCourse (o : RemoteOptions) (artifact : Artifact) (known : Option Descriptor) :
    List Exchange → Except RemoteFailure Descriptor → Prop where
  /-- It is not told whether referrers are listed. -/
  | untold {reply : Reply} {e : RemoteFailure}
    (h : understood (probeRequest o artifact.repository artifact.digest)
      (readSupport artifact.repository artifact.digest) reply = .error e) :
    SubjectCourse o artifact known
      [(probeRequest o artifact.repository artifact.digest, reply)] (.error e)
  /-- They are not. -/
  | unsupported {p : Response} (h : p.status = 404 ∨ p.status = 405) :
    SubjectCourse o artifact known
      [(probeRequest o artifact.repository artifact.digest, .received p)]
      (.error (.registry (.withoutReferrers artifact.repository.registry)))
  /-- They are, and the subject is known. -/
  | known {p : Response} {d : Descriptor} (hp : p.status = 200) (h : known = some d) :
    SubjectCourse o artifact known
      [(probeRequest o artifact.repository artifact.digest, .received p)] (.ok d)
  /-- They are, and the subject is asked for. -/
  | asked {p : Response} {xs : List Exchange} {r : Except RemoteFailure Descriptor}
    (hp : p.status = 200) (hknown : known = none)
    (h : Yields (headManifest o artifact.repository artifact.digest) xs r) :
    SubjectCourse o artifact known
      ((probeRequest o artifact.repository artifact.digest, .received p) :: xs) r

theorem subjectCourse {artifact : Artifact} {entity : Option SignedEntity}
    {r : Except RemoteFailure Descriptor} (h : Yields (subjectDescriptor o artifact entity) xs r) :
    SubjectCourse o artifact ((entity.filter SignedEntity.known).bind SignedEntity.descriptor)
      xs r := by
  rcases Attempt.yields_bind.1 h with ⟨e, he, rfl⟩ | ⟨ys, zs, supported, rfl, hprobe, hnext⟩
  · obtain ⟨reply, rfl, hreply⟩ := yields_ask.1 he
    exact .untold hreply.symm
  obtain ⟨reply, rfl, hreply⟩ := yields_ask.1 hprobe
  obtain ⟨p, rfl, hp⟩ := understood_eq_ok_iff.1 hreply.symm
  rw [readSupport_eq_ok_iff] at hp
  cases supported with
  | false =>
    rcases Attempt.yields_bind.1 hnext with ⟨e, ⟨rfl, he⟩, rfl⟩ | ⟨_, _, _, -, ⟨-, hok⟩, -⟩
    · cases he
      exact .unsupported hp
    · cases hok
  | true =>
    simp only [Bool.not_true, Bool.false_eq_true, if_false] at hnext
    split at hnext
    · rename_i d hd
      obtain ⟨rfl, rfl⟩ := hnext
      exact .known hp hd
    · rename_i hnone
      exact .asked hp hnone hnext

/-! ## Who says that referrers are not listed -/

/-- A question of which no answer is a failure of the kind. -/
theorem fails_ask_not_isUnsupported {request : Request}
    {understand : Response → Except RemoteFailure α}
    (h : ∀ p registry, understand p ≠ .error (.registry (.withoutReferrers registry))) :
    Fails (¬ ·.IsUnsupported) (ask request understand) := by
  intro xs e hxs
  obtain ⟨reply, rfl, hreply⟩ := yields_ask.1 hxs
  rintro ⟨registry, rfl⟩
  cases reply with
  | received p => exact h p registry hreply.symm
  | failure reason => cases hreply

theorem checked_ne_withoutReferrers {reference registry : Text} {p : Response}
    {understand : Except RemoteFailure α}
    (h : understand ≠ .error (.registry (.withoutReferrers registry))) :
    (checkManifest repository reference p >>= fun _ => understand) ≠
      .error (.registry (.withoutReferrers registry)) := by
  unfold checkManifest
  split_ifs
  · simp [Bind.bind, Except.bind]
  · simp [Bind.bind, Except.bind]
  · exact h

theorem fails_getManifest (reference : Text) :
    Fails (¬ ·.IsUnsupported) (getManifest o repository reference) := by
  refine fails_ask_not_isUnsupported fun p registry => ?_
  refine checked_ne_withoutReferrers ?_
  split
  · simp
  · simp
  · split <;> simp

theorem fails_headManifest (reference : Text) :
    Fails (¬ ·.IsUnsupported) (headManifest o repository reference) := by
  have hhead : Fails (¬ ·.IsUnsupported) (ask (manifestRequest o .head repository reference)
      (readHeaders repository reference)) := by
    refine fails_ask_not_isUnsupported fun p registry => checked_ne_withoutReferrers ?_
    split <;> simp
  refine hhead.bind ?_
  intro described
  cases described with
  | some descriptor => exact Attempt.fails_pure _
  | none => exact (fails_getManifest reference).bind fun _ => Attempt.fails_pure _

theorem fails_uploadBlob (content : Bytes) :
    Fails (¬ ·.IsUnsupported) (uploadBlob o repository content) := by
  have hexists : Fails (¬ ·.IsUnsupported) (blobExists o repository (sha256Digest content)) := by
    refine fails_ask_not_isUnsupported fun p registry => ?_
    unfold readPresence
    split_ifs <;> simp
  have hstart : Fails (¬ ·.IsUnsupported)
      (ask (startRequest o repository) (readLocation o repository)) := by
    refine fails_ask_not_isUnsupported fun p registry => ?_
    unfold readLocation
    split
    · simp
    · cases Url.join (uploadsUrl o repository) _ <;> simp [Except.mapError]
  have hsent (url : Text) : Fails (¬ ·.IsUnsupported) (ask (contentRequest o url content)
      (checkUploaded repository (sha256Digest content))) := by
    refine fails_ask_not_isUnsupported fun p registry => ?_
    unfold checkUploaded
    split_ifs <;> simp
  apply hexists.bind
  intro present
  cases present with
  | true => exact Attempt.fails_pure _
  | false => exact hstart.bind hsent

/-- Only the probe finds out that referrers are not listed; writing an image does not. -/
theorem fails_writeImage (layers : List Layer) (placement : Placement) :
    Fails (¬ ·.IsUnsupported) (writeImage o repository layers placement) := by
  have hcanonical (v : Json) : Fails (¬ ·.IsUnsupported) (canonical v) := by
    intro xs e he
    obtain ⟨-, fault, -, rfl⟩ := yields_canonical_error.1 he
    rintro ⟨registry, hregistry⟩
    cases hregistry
  have hlayers : Fails (¬ ·.IsUnsupported) (uploadLayers o repository layers) := by
    induction layers with
    | nil => exact Attempt.fails_pure _
    | cons layer rest ih => exact (fails_uploadBlob _).bind fun _ => ih
  have hpush (reference : Text) (manifest : Bytes) : Fails (¬ ·.IsUnsupported)
      (putManifest o repository reference manifest MediaType.imageManifest) := by
    refine fails_ask_not_isUnsupported fun p registry => ?_
    unfold checkPushed
    split_ifs <;> simp
  rw [writeImage]
  exact (hcanonical _).bind fun _ => (fails_uploadBlob _).bind fun _ => hlayers.bind fun _ =>
    (hcanonical _).bind fun _ => hpush _ _

/-- No request that writes an image asks for content of a type. -/
theorem accept_notMem_writeImage (layers : List Layer) (placement : Placement) (type : Text) :
    Sends (fun q => (("Accept" : Text), type) ∉ q.headers)
      (writeImage o repository layers placement) := by
  have hcanonical {P : Request → Prop} (v : Json) : Sends P (canonical v) := by
    rw [canonical]
    split
    · exact Attempt.sends_pure _
    · exact Attempt.sends_throw _
  have hpush (reference : Text) (manifest : Bytes) :
      (("Accept" : Text), type) ∉
        (pushRequest o repository reference manifest MediaType.imageManifest).headers := by
    have hcontent : ("Accept" : Text) ≠ "Content-Type" := by decide
    intro haccept
    simpa [hcontent] using accept_mem_headers_iff.1 haccept
  rw [writeImage_eq]
  exact (hcanonical _).bind fun _ =>
    ((uploads_uploadParts _ _).mono fun _ h => h.accept_notMem type).bind fun _ =>
      (hcanonical _).bind fun _ => sends_ask (hpush _ _)

/-- A probe that is not understood says nothing about referrers. -/
theorem not_isUnsupported_of_untold {digest : Text} {request : Request} {reply : Reply}
    {e : RemoteFailure}
    (h : understood request (readSupport repository digest) reply = .error e) :
    ¬ e.IsUnsupported ∧ ∀ p, reply = .received p →
      p.status ≠ 200 ∧ p.status ≠ 404 ∧ p.status ≠ 405 := by
  cases reply with
  | failure reason =>
    cases h
    refine ⟨?_, by simp⟩
    rintro ⟨registry, hregistry⟩
    cases hregistry
  | received p =>
    rw [understood_received, readSupport] at h
    split_ifs at h with hyes hno
    cases h
    rw [not_or] at hno
    refine ⟨?_, ?_⟩
    · rintro ⟨registry, hregistry⟩
      simp at hregistry
    · rintro _ ⟨⟩
      exact ⟨hyes, hno⟩

/-! ## What the courses of a subject show -/

section SubjectCourse

variable {artifact : Artifact} {known : Option Descriptor} {r : Except RemoteFailure Descriptor}

/-- The probe comes first; all that may follow asks for the subject. -/
theorem SubjectCourse.probed (h : SubjectCourse o artifact known xs r) :
    ∃ reply ys, xs = (probeRequest o artifact.repository artifact.digest, reply) :: ys ∧
      ∀ y ∈ ys, Fetches o artifact.repository (· = artifact.digest) y.1 := by
  cases h with
  | untold _ | unsupported _ | known _ _ => exact ⟨_, [], rfl, by simp⟩
  | asked _ _ h => exact ⟨_, _, rfl, fetches_headManifest _ h⟩

theorem SubjectCourse.reads (h : SubjectCourse o artifact known xs r) : ∀ x ∈ xs, x.1.Reads := by
  obtain ⟨reply, ys, rfl, hys⟩ := h.probed
  intro x hx
  rcases List.mem_cons.1 hx with rfl | hx
  · exact ⟨rfl, rfl⟩
  · exact (hys x hx).reads

/-- Referrers are said not to be listed exactly if the probe is answered with one of two
statuses. -/
theorem SubjectCourse.isUnsupported_iff (h : SubjectCourse o artifact known xs r) :
    (∃ e, r = .error e ∧ e.IsUnsupported) ↔
      ∃ p, (probeRequest o artifact.repository artifact.digest, .received p) ∈ xs ∧
        (p.status = 404 ∨ p.status = 405) := by
  cases h with
  | untold h =>
    obtain ⟨hfailure, hstatus⟩ := not_isUnsupported_of_untold h
    constructor
    · rintro ⟨e, he, hunsupported⟩
      cases he
      exact absurd hunsupported hfailure
    · rintro ⟨p, hp, hstatus'⟩
      obtain ⟨-, rfl⟩ := Prod.mk.inj (List.mem_singleton.1 hp)
      obtain ⟨-, hne, hne'⟩ := hstatus p rfl
      exact absurd hstatus' (not_or.2 ⟨hne, hne'⟩)
  | unsupported h => exact ⟨fun _ => ⟨_, List.mem_singleton_self _, h⟩, fun _ => ⟨_, rfl, _, rfl⟩⟩
  | @known p d hp _ =>
    constructor
    · rintro ⟨e, he, -⟩
      cases he
    · rintro ⟨p', hp', hstatus⟩
      obtain ⟨-, hsame⟩ := Prod.mk.inj (List.mem_singleton.1 hp')
      cases hsame
      simp [hp] at hstatus
  | @asked p ys _ hp _ h =>
    constructor
    · rintro ⟨e, rfl, hunsupported⟩
      exact absurd hunsupported (fails_headManifest _ h)
    · rintro ⟨p', hp', hstatus⟩
      rcases List.mem_cons.1 hp' with hsame | hys
      · cases (Prod.mk.inj hsame).2
        simp [hp] at hstatus
      · exact absurd (asksForIndex_probeRequest _) (fetches_headManifest _ h _ hys).not_asksForIndex

/-- A subject that is answered to be missing is not described. -/
theorem SubjectCourse.eq_missing (h : SubjectCourse o artifact known xs r) {reply : Reply}
    {ys : List Exchange}
    (hxs : xs = (probeRequest o artifact.repository artifact.digest, reply) :: ys) {q : Request}
    {p : Response} (hx : (q, .received p) ∈ ys) (hp : p.status = 404) :
    r = .error (.registry (.missing artifact.repository artifact.digest)) := by
  cases h with
  | untold _ | unsupported _ | known _ _ =>
    cases hxs
    cases hx
  | asked _ _ h =>
    cases hxs
    exact (headCourse h).eq_missing hx hp

end SubjectCourse

end Remote
end Signet
