import Mathlib
import Signet.Proofs.Storage.Early
import Signet.Proofs.Storage.Outcome
import Signet.Proofs.Storage.Push

/-!
# Subjects of referrers

An image that is put at its subject names the digest that the registry told of the artifact
last: a header of the answer without a body, or the digest of the body. The digest that was
asked for is not compared with it, so the image refers to the artifact of the request exactly if
the registry tells that digest.

## Main definitions

* `Storing.toldLast?` — the digest that the last answer about an artifact tells.
-/
namespace Signet
namespace Storing

open Attempt (Yields Sends)

variable {remote : RemoteOptions} {o : StoreOptions} {q : StoreRequest} {xs ys : List Exchange}
  {artifact : Artifact}

/-! ## Answers about an artifact -/

/-- The exchange asks for the manifest of the artifact. -/
def IsAbout (remote : RemoteOptions) (artifact : Artifact) (x : Exchange) : Prop :=
  x.1 = Remote.manifestRequest remote .head artifact.repository artifact.digest ∨
    x.1 = Remote.manifestRequest remote .get artifact.repository artifact.digest

instance (remote : RemoteOptions) (artifact : Artifact) :
    DecidablePred (IsAbout remote artifact) :=
  fun _ => inferInstanceAs (Decidable (_ ∨ _))

/-- The digest that the last answer about the artifact tells. -/
def toldLast? (remote : RemoteOptions) (artifact : Artifact) (xs : List Exchange) : Option Text :=
  (xs.reverse.find? fun x => IsAbout remote artifact x).bind Remote.toldDigest?

theorem toldLast?_concat {x : Exchange} (hx : IsAbout remote artifact x) :
    toldLast? remote artifact (xs ++ [x]) = Remote.toldDigest? x := by
  simp [toldLast?, hx]

/-- Exchanges about something else do not count. -/
theorem toldLast?_append (hys : ∀ y ∈ ys, ¬ IsAbout remote artifact y) :
    toldLast? remote artifact (xs ++ ys) = toldLast? remote artifact xs := by
  have hnone : (ys.reverse.find? fun y => IsAbout remote artifact y) = none := by
    simpa using hys
  rw [toldLast?, toldLast?, List.reverse_append, List.find?_append, hnone, Option.none_or]

theorem IsAbout.asksForManifest {x : Exchange} (h : IsAbout remote artifact x) :
    x.1.AsksForManifest := by
  rcases h with h | h
  · rw [h]
    exact Remote.asksForManifest_manifestRequest _ _
  · rw [h]
    exact Remote.asksForManifest_manifestRequest _ _

theorem IsAbout.fetches {x : Exchange} (h : IsAbout remote artifact x) :
    Remote.Fetches remote artifact.repository (· = artifact.digest) x.1 := by
  rcases h with h | h
  · rw [h]
    exact .manifest rfl rfl
  · rw [h]
    exact .manifest rfl rfl

/-- The tags of an artifact are longer than its digest. -/
theorem tag?_ne_digest (kind : Kind) : artifact.tag? kind.suffix ≠ some artifact.digest := by
  intro h
  rw [Artifact.tag?, Artifact.hex?, Artifact.algorithm] at h
  cases hcut : artifact.digest.cut? ':' with
  | none =>
    rw [hcut] at h
    cases h
  | some parts =>
    obtain ⟨algorithm, hex⟩ := parts
    rw [hcut] at h
    have hlength := congrArg List.length (Option.some.inj h)
    rw [(Text.eq_of_cut?_eq_some hcut).1] at hlength
    have hdash : ("-" : Text).length = 1 := rfl
    have hdot : ("." : Text).length = 1 := rfl
    simp only [List.length_append, List.length_cons] at hlength
    omega

/-- Reading the material of a kind asks for nothing about the artifact itself. -/
theorem not_isAbout_of_loadKind {suffixes : List Text} {kind : Kind}
    {r : Except RemoteFailure (List Layer)}
    (h : Yields (Remote.loadKind remote artifact suffixes kind) xs r) :
    ∀ x ∈ xs, ¬ IsAbout remote artifact x := by
  have hblob (digest : Text) :
      ¬ (Remote.blobRequest remote .get artifact.repository digest).AsksForManifest :=
    fun hasks => by cases Remote.accept_mem_headers_iff.1 hasks
  have hmanifest {method method' : Method} {reference : Text}
      (hreference : artifact.tag? kind.suffix = some reference) :
      Remote.manifestRequest remote method artifact.repository reference ≠
        Remote.manifestRequest remote method' artifact.repository artifact.digest := by
    intro hsame
    have hurl := congrArg Request.url hsame
    simp only [Remote.manifestRequest, RemoteOptions.request, RemoteOptions.url,
      List.append_cancel_left_eq] at hurl
    exact tag?_ne_digest kind (hurl ▸ hreference)
  rintro ⟨request, reply⟩ hx habout
  have hfetches := Remote.fetches_loadKind _ _ _ h _ hx
  dsimp only at hfetches
  cases hfetches with
  | manifest _ hreference =>
    rcases habout with hsame | hsame
    · exact hmanifest hreference hsame
    · exact hmanifest hreference hsame
  | blob digest => exact hblob digest habout.asksForManifest

/-- The last answer of a described manifest is about the artifact. -/
theorem toldLast?_headManifest {d : Descriptor}
    (h : Yields (Remote.headManifest remote artifact.repository artifact.digest) ys (.ok d)) :
    toldLast? remote artifact (xs ++ ys) = some d.digest := by
  obtain ⟨zs, method, reply, rfl, hsafe, htold⟩ := (Remote.headCourse h).told
  rw [← List.append_assoc, toldLast?_concat, htold]
  cases method with
  | head => exact .inl rfl
  | get => exact .inr rfl
  | post | put => cases hsafe

/-- An artifact that is known is described by what was told of it last. -/
theorem toldLast?_resolve {suffixes : List Text} {entity : SignedEntity}
    (h : Yields (resolve remote artifact suffixes) xs (.ok entity)) {d : Descriptor}
    (hd : (entity.descriptor.filter fun _ => entity.known) = some d) :
    toldLast? remote artifact xs = some d.digest := by
  rcases Attempt.yields_recover.1 h with ⟨known, hknown, hentity⟩ | ⟨e, -, hentity⟩
  · cases hentity
    obtain ⟨ys, _, d', rfl, hhead, hrest⟩ := Attempt.yields_bind_ok.1 hknown
    obtain ⟨zs, _, _, rfl, hsignatures, hrest⟩ := Attempt.yields_bind_ok.1 hrest
    obtain ⟨ws, _, _, rfl, hattestations, rfl, hentity⟩ := Attempt.yields_bind_ok.1 hrest
    cases hentity
    cases hd
    rw [List.append_nil, ← List.append_assoc,
      toldLast?_append (not_isAbout_of_loadKind hattestations),
      toldLast?_append (not_isAbout_of_loadKind hsignatures), ← List.nil_append ys]
    exact toldLast?_headManifest hhead
  · -- A placeholder is not known.
    split at hentity
    · cases hentity
      cases hd
    · cases hentity
    · cases hentity

/-- The subject of the image that is prepared is described by what was told of the artifact
last. -/
theorem toldLast?_prepare {entity : SignedEntity} {image : ReadyImage} {suffixes : List Text}
    (hformat : Format.routed o.format ≠ .legacy)
    (hresolve : Yields (resolve remote q.artifact suffixes) xs (.ok entity))
    (h : PrepareCourse remote q (.routed o.format) entity ys (.ok image)) :
    ∃ d artifactType annotations, image.placement = .subject d artifactType annotations ∧
      toldLast? remote q.artifact (xs ++ ys) = some d.digest := by
  generalize hr : (Except.ok image : Except StoreFailure ReadyImage) = r at h
  cases h with
  | unbuilt _ | untagged _ => cases hr
  | tagged _ hlegacy => exact absurd hlegacy hformat
  | @described _ r' stage make known hknown hsubject h =>
    cases r' with
    | error e => cases hr
    | ok d =>
      cases hr
      obtain ⟨artifactType, annotations, hplacement⟩ := hsubject d
      refine ⟨d, artifactType, annotations, hplacement, ?_⟩
      generalize hd : (Except.ok d : Except RemoteFailure Descriptor) = rd at h
      have hprobe (p : Response) : ∀ x ∈ [(Remote.probeRequest remote q.artifact.repository
          q.artifact.digest, Reply.received p)], ¬ IsAbout remote q.artifact x := by
        intro x hx habout
        rw [List.mem_singleton] at hx
        subst hx
        exact habout.fetches.not_asksForIndex (Remote.asksForIndex_probeRequest _)
      cases h with
      | untold _ | unsupported _ => cases hd
      | known _ hsame =>
        cases hd
        rw [toldLast?_append (hprobe _)]
        refine toldLast?_resolve hresolve ?_
        rcases hknown with hnone | hentity
        · rw [hnone] at hsame
          cases hsame
        · exact hentity ▸ hsame
      | @asked p zs _ _ _ hhead =>
        subst hd
        have hsplit : xs ++ (Remote.probeRequest remote q.artifact.repository q.artifact.digest,
            Reply.received p) :: zs = (xs ++ [(Remote.probeRequest remote q.artifact.repository
              q.artifact.digest, Reply.received p)]) ++ zs := by
          simp
        rw [hsplit]
        exact toldLast?_headManifest hhead

/-! ## Subjects -/

/-- A manifest that is pushed without a tag names what was told before it. -/
theorem subject_of_yields {r : Except StoreFailure Unit} (h : Yields (storeWith remote o q) xs r)
    (hformat : Format.routed o.format ≠ .legacy) {before after : List Exchange} {push : Request}
    {reply : Reply} (hxs : xs = before ++ (push, reply) :: after) (hpush : push.PushesManifest) :
    ∃ bytes manifest digest, push.data = some bytes ∧ Json.readBytes bytes = .ok manifest ∧
      Registry.subject? manifest = some digest ∧
      toldLast? remote q.artifact before = some digest := by
  have hmem : (push, reply) ∈ xs := by
    simp [hxs]
  have hnot {ys : List Exchange} (hys : ∀ y ∈ ys, y.1.Reads) : (push, reply) ∉ ys :=
    fun hy => (hys _ hy).not_pushesManifest hpush
  cases storeCourse_phases h with
  | unresolved hresolve => exact absurd hmem (hnot (sends_resolve _ _ hresolve))
  | unprepared hresolve hprepare =>
    rcases List.mem_append.1 hmem with hmem | hmem
    · exact absurd hmem (hnot (sends_resolve _ _ hresolve))
    · exact absurd hmem (hnot hprepare.reads)
  | @written ys zs ws entity image r' hresolve hprepare hwrite =>
    have hys := hnot (sends_resolve _ _ hresolve)
    have hzs := hnot hprepare.reads
    have hparts {us : List Exchange} {config : Bytes} {r'' : Except RemoteFailure Unit}
        (hus : Yields (Remote.uploadParts remote image.repository config image.layers) us r'') :
        (push, reply) ∉ us :=
      fun hu => Remote.sends_uploadParts _ _ hus _ hu hpush
    obtain ⟨config, -, hcourse⟩ := Remote.writeCourse hwrite
    cases hcourse with
    | notUploaded hupload | unwritable hupload _ =>
      simp [hys, hzs, hparts hupload] at hmem
    | @pushed us manifest reply' hupload hmanifest =>
      have hbefore : (push, reply) ∉ ys ++ (zs ++ us) := by
        simp [hys, hzs, hparts hupload]
      have hsplit : ys ++ (zs ++ us) ++ (Remote.pushRequest remote image.repository
          (image.placement.reference manifest) manifest MediaType.imageManifest, reply') :: [] =
          before ++ (push, reply) :: after := by
        simpa using hxs
      obtain ⟨rfl, hsame, -⟩ :=
        (List.append_cons_inj_of_notMem hbefore List.not_mem_nil).1 hsplit
      cases hsame
      obtain ⟨d, artifactType, annotations, hplacement, htold⟩ :=
        toldLast?_prepare hformat hresolve hprepare
      refine ⟨manifest, _, d.digest, rfl, readBytes_manifest hmanifest, ?_, ?_⟩
      · rw [Registry.subject?_imageManifest, hplacement]
      · rw [← List.append_assoc, toldLast?_append, htold]
        intro u hu habout
        exact (Remote.uploads_uploadParts _ _ hupload u hu).accept_notMem _ habout.asksForManifest

/-- Whatever the server does, a manifest that a store pushes without a tag names as its subject
the digest that the last answer about the artifact told before. -/
theorem subject_told {σ : Type} (server : Session.Server σ) (state : σ) (remote : RemoteOptions)
    (o : StoreOptions) (q : StoreRequest) (hformat : Format.routed o.format ≠ .legacy)
    {before after : List Exchange} {push : Request} {reply : Reply}
    (hxs : (runStore server remote o q state).exchanges = before ++ (push, reply) :: after)
    (hpush : push.PushesManifest) :
    ∃ bytes manifest digest, push.data = some bytes ∧ Json.readBytes bytes = .ok manifest ∧
      Registry.subject? manifest = some digest ∧
      toldLast? remote q.artifact before = some digest :=
  subject_of_yields (Attempt.yields_run server (storeWith remote o q) state) hformat hxs hpush

/-! ## An artifact with a longer digest -/

/-- The digest of an empty object with another algorithm. -/
def longDigest : Text :=
  "sha512:27c74670adb75075fad058d5ceaf7b20c4e7786c83bae8a32f626f9782af34c9" ++
    "a33c2046ef60fd2a7878d378e29fec851806bbd9a67878f3a9f1cda4830763fd"

/-- A signature of the artifact with that digest. -/
def longRequest : StoreRequest := { sampleRequest with artifact := ⟨⟨"r.io", "a"⟩, longDigest⟩ }

def longRegistry : Registry :=
  { manifests := [(Registry.keyOf ⟨"r.io", "a"⟩ longDigest, { content := encoded "\x7b\x7d" })] }

/-- The format that puts signatures at their subject. -/
def byReferrer : StoreOptions := { format := Format.referrers.identifier }

/-- Storing that signature there. -/
abbrev longRun : Session.Run Registry (Except StoreFailure Unit) :=
  runStore Registry.serve {} byReferrer longRequest longRegistry

theorem routed_byReferrer : Format.routed byReferrer.format ≠ .legacy := by
  rw [byReferrer, Format.routed_identifier]
  decide

theorem parse_longRequest : Artifact.parse ("r.io/a@" ++ longDigest) = .ok longRequest.artifact := by
  decide +kernel

/-- The signature is prepared for the subject that the registry tells, and stored. -/
theorem store_longRun :
    Registry.outcome longRegistry (prepare {} byReferrer longRequest) =
        .ok ⟨⟨"r.io", "a"⟩, [signatureLayer], signatureReferrer⟩ ∧
      longRun.result = .ok () := by
  have hparsed := Artifact.parsed_of_parse parse_longRequest
  obtain ⟨tag, htag⟩ := hparsed.exists_tag Kind.signature.suffix
  have hne : longRequest.artifact.tag? Kind.signature.suffix ≠ some longDigest :=
    tag?_ne_digest .signature
  have hmissing : Assoc.lookup (Registry.keyOf ⟨"r.io", "a"⟩ tag) longRegistry.manifests = none := by
    refine if_neg fun hkey => hne ?_
    rw [htag, ← (Registry.Key.mk.inj hkey).2]
  exact store_signatureReferrer (o := byReferrer) (Format.routed_identifier .referrers) hparsed
    hparsed.repository rfl htag (if_pos rfl) (.missing hmissing)
    (by decide) (by decide)

theorem subject_told_longRun :
    ∃ before push reply, longRun.exchanges = before ++ [(push, reply)] ∧ push.PushesManifest ∧
      ∃ bytes manifest digest, push.data = some bytes ∧ Json.readBytes bytes = .ok manifest ∧
        Registry.subject? manifest = some digest ∧
        toldLast? {} longRequest.artifact before = some digest := by
  have hyields := Attempt.yields_run Registry.serve (storeWith {} byReferrer longRequest) longRegistry
  rcases storeCourse hyields with ⟨-, e, he⟩ | ⟨before, push, reply, hxs, -, hpush, -, -⟩
  · have hok := store_longRun.2
    rw [he] at hok
    cases hok
  · exact ⟨before, push, reply, hxs, hpush,
      subject_told Registry.serve longRegistry {} byReferrer longRequest routed_byReferrer hxs hpush⟩

/-- Not every referrer refers to the artifact of the request. -/
theorem subject_differs :
    ¬ ∀ (state : Registry) (remote : RemoteOptions) (o : StoreOptions) (q : StoreRequest)
      (reference : Text), Artifact.parse reference = .ok q.artifact →
      Format.routed o.format ≠ .legacy →
      ∀ x ∈ (runStore Registry.serve remote o q state).exchanges, x.1.PushesManifest →
      ∀ bytes manifest, x.1.data = some bytes → Json.readBytes bytes = .ok manifest →
        Registry.subject? manifest = some q.artifact.digest := by
  intro hclaim
  obtain ⟨hprepared, hok⟩ := store_longRun
  have hyields := Attempt.yields_run Registry.serve (storeWith {} byReferrer longRequest) longRegistry
  have hserved := Session.served_run Registry.serve (storeWith {} byReferrer longRequest).run
    longRegistry
  rw [hok] at hyields
  obtain ⟨ys, image, config, himage, ⟨zs, hxs⟩, -, before, push, reply, bytes, hsplit, -, hpush,
    hdata, hread, -⟩ := pushes_of_yields hyields
  have hmem : (push, reply) ∈ longRun.exchanges := by
    rw [hsplit]
    simp
  have hclaimed := hclaim longRegistry {} byReferrer longRequest _ parse_longRequest
    routed_byReferrer _ hmem hpush bytes _ hdata hread
  rw [hxs] at hserved
  obtain ⟨middle, hys, -⟩ := Session.served_append.1 hserved
  obtain rfl := Except.ok.inj ((Registry.outcome_eq_of_yields himage hys).symm.trans hprepared)
  rw [Registry.subject?_imageManifest] at hclaimed
  -- The registry told a SHA-256 digest, and another one was asked for.
  have hdigest : emptyDescriptor.digest = longDigest := Option.some.inj hclaimed
  have hstart := startsWith_sha256Digest (encoded "\x7b\x7d")
  rw [show sha256Digest (encoded "\x7b\x7d") = longDigest from hdigest] at hstart
  exact absurd hstart (by decide)

end Storing
end Signet
