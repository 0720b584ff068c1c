import Mathlib
import Signet.Proofs.Registry.Reading
import Signet.Proofs.Remote.TagImage
import Signet.Proofs.Text.Decimal

/-!
# Manifests described by headers and by content

A manifest is described from the headers of an answer without a body, or from its content. If the
headers tell of the content what it is, the descriptors have the same digest and the same size.
Their types differ in one case: the header states a type that is blank before its parameters. The
content, or else the common type of images, takes its place only where the manifest is fetched.

## Main definitions

* `Response.Mirrors p g` — the headers of the one answer tell what the other one holds, as far as
  they tell anything.
* `Response.Untyped p` — the answer states a type with nothing before its parameters.
-/
namespace Signet

namespace Response

/-- An answer to the request for the headers of a manifest, beside the one with the manifest: each
of the headers that describe it is missing or right. -/
structure Mirrors (p g : Response) : Prop where
  status : p.status = 200
  mediaType : ∀ t, p.header? "Content-Type" = some t → g.header? "Content-Type" = some t
  digest : ∀ t, p.header? "Docker-Content-Digest" = some t → t = sha256Digest g.body
  length : ∀ t, p.header? "Content-Length" = some t → t = Decimal.ofNat g.body.length

/-- The answer states a type, but nothing stands before its parameters. -/
def Untyped (p : Response) : Prop :=
  ∃ t, p.header? "Content-Type" = some t ∧ Remote.bareMediaType t = []

end Response

/-! ## Values shown as text -/

namespace Binary64

theorem layout_ne_nil (digits : Nat) (scale : Int) : layout digits scale ≠ [] := by
  have hzero : ("0." : Text) ≠ [] := by decide
  have hpoint : (".0" : Text) ≠ [] := by decide
  have hmark : ("." : Text) ≠ [] := by decide
  unfold layout
  dsimp only
  split_ifs
  · simp [hzero]
  · simp [hpoint]
  · simp [hmark]
  all_goals exact List.append_ne_nil_of_right_ne_nil _ (Decimal.ofNat_ne_nil _)

theorem toText?_ne_some_nil (x : Binary64) : x.toText? ≠ some [] := by
  have hzero : ("0.0" : Text) ≠ [] := by decide
  unfold toText?
  split
  · dsimp only
    split_ifs
    all_goals rw [ne_eq, Option.some.injEq]
    · exact List.append_ne_nil_of_right_ne_nil _ hzero
    · exact List.append_ne_nil_of_right_ne_nil _ hzero
    · exact List.append_ne_nil_of_right_ne_nil _ (layout_ne_nil _ _)
    · exact List.append_ne_nil_of_right_ne_nil _ (layout_ne_nil _ _)
  · exact Option.some_ne_none _ |>.symm

end Binary64

namespace Json

theorem displayFloat_ne_nil (x : Binary64) : displayFloat x ≠ [] := by
  unfold displayFloat
  split
  · rename_i t ht
    intro hnil
    exact x.toText?_ne_some_nil (hnil ▸ ht)
  · cases x with
    | finite _ _ _ => exact (by decide : ("nan" : Text) ≠ [])
    | infinite negative => cases negative <;> decide
    | nan => decide

/-- A value that counts as something is shown as something. -/
theorem display_ne_nil {v : Json} (h : v.isBlank = false) : v.display ≠ [] := by
  have hopen : ("[" : Text) ≠ [] := by decide
  have hbrace : ("\x7b" : Text) ≠ [] := by decide
  cases v with
  | null => cases h
  | bool b => cases b <;> decide
  | int n =>
    have hshown : (Json.int n).display = Decimal.ofInt n := rfl
    rw [hshown, Decimal.ofInt]
    split_ifs
    · exact List.cons_ne_nil _ _
    · exact Decimal.ofNat_ne_nil _
  | float x => exact displayFloat_ne_nil x
  | text t => simpa [isBlank] using h
  | array items => simp [display, displayInner, hopen]
  | object members => simp [display, displayInner, hbrace]

end Json

namespace Remote

variable {o : RemoteOptions} {repository : Repository} {reference : Text} {p g : Response}
  {members : Json.Members} {d : Descriptor}

/-! ## Types -/

theorem manifestType_of_bareMediaType {t : Text} (h : g.header? "Content-Type" = some t)
    (hbare : bareMediaType t ≠ []) (members : Json.Members) :
    manifestType g members = bareMediaType t := by
  simp [manifestType, h, hbare]

/-- A fetched manifest always has a type. -/
theorem manifestType_ne_nil (g : Response) (members : Json.Members) :
    manifestType g members ≠ [] := by
  have hcommon : MediaType.imageManifest ≠ [] := by decide
  unfold manifestType
  dsimp only
  split_ifs with hbare
  · simpa using hbare
  · split
    · rename_i v _
      cases hblank : v.isBlank with
      | true => simpa using hcommon
      | false => simpa using Json.display_ne_nil hblank
    · exact hcommon

/-- The type that a header states is that of the fetched manifest, unless it is blank. -/
theorem bareMediaType_eq_manifestType_iff {t : Text} (h : g.header? "Content-Type" = some t)
    (members : Json.Members) : bareMediaType t = manifestType g members ↔ bareMediaType t ≠ [] := by
  constructor
  · intro heq
    rw [heq]
    exact manifestType_ne_nil g members
  · exact fun hbare => (manifestType_of_bareMediaType h hbare members).symm

/-! ## What the headers tell -/

/-- Headers that describe a manifest completely give its digest and its size, and the type that
they state. The size has to be short enough to be read. -/
theorem readHeaders_of_mirrors (h : p.Mirrors g) (hcomplete : p.DescribesManifest) :
    ∃ t, p.header? "Content-Type" = some t ∧ g.header? "Content-Type" = some t ∧
      readHeaders repository reference p =
        if Decimal.digitCount g.body.length ≤ Decimal.maxDigits then
          .ok (some { mediaType := bareMediaType t
                      digest := sha256Digest g.body
                      size := g.body.length })
        else .error (.fault (.integer (.tooLong (Decimal.digitCount g.body.length)))) := by
  obtain ⟨digest, t, length, hdigest, hdigest', htype, htype', hlength, hdigits⟩ := hcomplete
  obtain rfl := h.digest digest hdigest
  obtain rfl := h.length length hlength
  refine ⟨t, htype, h.mediaType t htype, ?_⟩
  have hdescribed : describeByHeaders p =
      some ((Decimal.readInt (Decimal.ofNat g.body.length)).map fun size =>
        { mediaType := bareMediaType t, digest := sha256Digest g.body, size }) := by
    simp [describeByHeaders, hdigest, htype, hlength, hdigest', htype', hdigits]
  rw [readHeaders, checkManifest_eq_ok_iff.2 h.status, hdescribed, Decimal.readInt_ofNat]
  by_cases hcount : Decimal.digitCount g.body.length ≤ Decimal.maxDigits
  · rw [if_pos hcount, if_pos hcount]
    rfl
  · rw [if_neg hcount, if_neg hcount]
    rfl

/-! ## Against a server -/

section Server

variable {σ : Type} {server : Session.Server σ}

theorem result_ask {α : Type} {request : Request} {s : σ}
    (h : (server s request).1 = .received g) (understand : Response → Except RemoteFailure α) :
    (Session.run server (ask request understand).run s).result = understand g := by
  have hserved := Session.served_run server (ask request understand).run s
  obtain ⟨reply, hxs, hresult⟩ := yields_ask.1 (Attempt.yields_run server (ask request understand) s)
  rw [hxs] at hserved
  obtain rfl : reply = .received g := hserved.1.trans h
  rw [hresult, understood_received]

theorem result_headManifest {s : σ}
    (hhead : (server s (manifestRequest o .head repository reference)).1 = .received p)
    (hget : (server (server s (manifestRequest o .head repository reference)).2
      (manifestRequest o .get repository reference)).1 = .received g) :
    (Session.run server (headManifest o repository reference).run s).result =
      match readHeaders repository reference p with
      | .ok (some d) => .ok d
      | .ok none => (readManifest repository reference g).map Prod.snd
      | .error e => .error e := by
  have hserved := Session.served_run server (headManifest o repository reference).run s
  have hcourse := headCourse (Attempt.yields_run server (headManifest o repository reference) s)
  generalize (Session.run server (headManifest o repository reference).run s).exchanges = xs
    at hserved hcourse
  generalize (Session.run server (headManifest o repository reference).run s).result = r
    at hcourse ⊢
  -- The course is one of two, and the server decides the replies in it.
  cases hcourse with
  | @headers reply _ h =>
    obtain rfl : reply = .received p := hserved.1.trans hhead
    rw [understood_received] at h
    rw [h]
    cases r <;> rfl
  | @fetched p' reply _ h hfetched =>
    obtain ⟨hfirst, hsecond, -⟩ := hserved
    obtain rfl : p' = p := Reply.received.inj (hfirst.trans hhead)
    obtain rfl : reply = .received g := hsecond.trans hget
    rw [understood_received] at hfetched
    rw [h, hfetched]

/-- The question for the headers and the one for the manifest describe it alike, unless the headers
are complete and the type that they state is blank, or the size has more digits than are read. A
blank type is then taken as it is. -/
theorem described_alike_iff {s s' : σ}
    (hhead : (server s' (manifestRequest o .head repository reference)).1 = .received p)
    (hget : (server s (manifestRequest o .get repository reference)).1 = .received g)
    (hget' : (server (server s' (manifestRequest o .head repository reference)).2
      (manifestRequest o .get repository reference)).1 = .received g)
    (hmirrors : p.Mirrors g)
    (hfetched : (Session.run server (getManifest o repository reference).run s).result =
      .ok (members, d)) :
    ((Session.run server (headManifest o repository reference).run s').result = .ok d ↔
      ¬ (p.DescribesManifest ∧
        (p.Untyped ∨ Decimal.maxDigits < Decimal.digitCount g.body.length))) ∧
    (p.DescribesManifest → p.Untyped →
      Decimal.digitCount g.body.length ≤ Decimal.maxDigits →
      (Session.run server (headManifest o repository reference).run s').result =
        .ok { d with mediaType := [] }) := by
  rw [getManifest, result_ask hget] at hfetched
  rw [result_headManifest hhead hget']
  obtain ⟨-, rfl⟩ := (readManifest_eq_ok_iff (status_of_readManifest hfetched)).1 hfetched
  by_cases hcomplete : p.DescribesManifest
  · -- Complete headers decide alone, so the type is the stated one even if it is blank.
    obtain ⟨t, htype, htype', hheaders⟩ :=
      @readHeaders_of_mirrors repository reference _ _ hmirrors hcomplete
    have huntyped : p.Untyped ↔ bareMediaType t = [] := by
      simp [Response.Untyped, htype]
    rw [hheaders, huntyped]
    by_cases hcount : Decimal.digitCount g.body.length ≤ Decimal.maxDigits
    · rw [if_pos hcount]
      dsimp only
      constructor
      · rw [Except.ok.injEq, Descriptor.mk.injEq]
        simp [bareMediaType_eq_manifestType_iff htype', hcomplete, hcount]
      · intro _ hbare _
        rw [hbare]
    · rw [if_neg hcount]
      have hlong := not_le.1 hcount
      exact ⟨iff_of_false (fun h => by cases h) fun h => h ⟨hcomplete, .inr hlong⟩,
        fun _ _ h => absurd h hcount⟩
  · have hnone : readHeaders repository reference p = .ok none :=
      readHeaders_eq_ok_none_iff.2 ⟨hmirrors.status, hcomplete⟩
    rw [hnone, hfetched]
    exact ⟨iff_of_true rfl fun h => hcomplete h.1, fun h => absurd h hcomplete⟩

end Server

end Remote

/-! ## Registries that keep manifests -/

namespace Registry

theorem header?_showManifest (m : StoredManifest) :
    (bodyFor .head (showManifest m)).readUtf8.header? "Docker-Content-Digest" =
        some (sha256Digest m.content) ∧
      (bodyFor .head (showManifest m)).readUtf8.header? "Content-Type" = some m.mediaType ∧
      (bodyFor .head (showManifest m)).readUtf8.header? "Content-Length" =
        some (Decimal.ofNat m.content.length) := by
  have hlength : Text.lower "Content-Length" ≠ Text.lower "Docker-Content-Digest" ∧
      Text.lower "Content-Length" ≠ Text.lower "Content-Type" ∧
      Text.lower "Docker-Content-Digest" ≠ Text.lower "Content-Type" := by decide +kernel
  simp [RawResponse.header?, bodyFor, showManifest, hlength, hlength.1.symm]

/-- The headers of a manifest that is kept tell what it is. -/
theorem mirrors_showManifest (m : StoredManifest) :
    (bodyFor .head (showManifest m)).readUtf8.Mirrors (showManifest m).readUtf8 where
  status := rfl
  mediaType := fun _ ht => ht
  digest := by
    intro t ht
    rw [(header?_showManifest m).1, Option.some.injEq] at ht
    exact ht.symm
  length := by
    intro t ht
    rw [(header?_showManifest m).2.2, Option.some.injEq] at ht
    exact ht.symm

/-- They are complete, if a type is kept with it. -/
theorem describesManifest_showManifest {m : StoredManifest} (h : m.mediaType ≠ []) :
    (bodyFor .head (showManifest m)).readUtf8.DescribesManifest := by
  obtain ⟨hdigest, htype, hlength⟩ := header?_showManifest m
  exact ⟨_, _, _, hdigest, sha256Digest_ne_nil _, htype, h, hlength, Decimal.isDigits_ofNat _⟩

variable {r : Registry} {o : RemoteOptions} {repository : Repository} {reference : Text}

/-- Either question about a manifest that is kept is answered with it. -/
theorem serve_manifestRequest (h : repository.Parsed) (hwhole : Remote.Whole reference)
    {m : StoredManifest} (hm : Assoc.lookup (keyOf repository reference) r.manifests = some m)
    {method : Method} (hmethod : method ≠ .put) :
    (serve r (Remote.manifestRequest o method repository reference)).1 =
      .response (bodyFor method (showManifest m)) := by
  have hreply := replyTo_manifest (r := r) (o := o) h hwhole hmethod
  rw [hm] at hreply
  exact congrArg Reply.received hreply

/-- An empty manifest that was pushed with a type. -/
def keptAs (mediaType : Text) : StoredManifest := ⟨[0x7B, 0x7D], mediaType⟩

/-- A registry that keeps it. -/
def keeping (mediaType : Text) : Registry :=
  { manifests := [(⟨"r.io/a", "t"⟩, keptAs mediaType)] }

/-- The descriptor of the manifest. -/
def keptDescriptor (mediaType : Text) : Descriptor :=
  { mediaType
    digest := "sha256:44136fa355b3678a1146ad16f7e8649e94fb4fc21fe77e8310c060f61caaff8a"
    size := 2 }

end Registry

namespace Remote

open Registry (serve bodyFor showManifest keptAs keeping keptDescriptor)

theorem serve_keeping (mediaType : Text) {method : Method} (hmethod : method ≠ .put) :
    (serve (keeping mediaType) (manifestRequest {} method ⟨"r.io", "a"⟩ "t")).1 =
      .response (bodyFor method (showManifest (keptAs mediaType))) := by
  have hname : Repository.parse "r.io/a" = .ok ⟨"r.io", "a"⟩ := by decide +kernel
  exact Registry.serve_manifestRequest (Repository.parsed_of_parse hname) (by decide +kernel) rfl
    hmethod

theorem readBytes_kept : Json.readBytes [0x7B, 0x7D] = .ok (.object []) := by cbv

theorem result_getManifest_keeping (mediaType : Text) :
    (Session.run serve (getManifest {} ⟨"r.io", "a"⟩ "t").run (keeping mediaType)).result =
      .ok ([], keptDescriptor (manifestType (showManifest (keptAs mediaType)).readUtf8 [])) := by
  have hdigest : sha256Digest [0x7B, 0x7D] =
      "sha256:44136fa355b3678a1146ad16f7e8649e94fb4fc21fe77e8310c060f61caaff8a" := by decide +kernel
  rw [getManifest, result_ask (serve_keeping mediaType (by decide)), readManifest_eq_ok_iff rfl,
    keptDescriptor, ← hdigest]
  exact ⟨readBytes_kept, rfl⟩

/-- Parameters behind a type make no difference. -/
theorem described_alike_iff_parameter :
    let m := keptAs "m; q=1"
    let r := keeping "m; q=1"
    (bodyFor .head (showManifest m)).readUtf8.Mirrors (showManifest m).readUtf8 ∧
      (serve r (manifestRequest {} .head ⟨"r.io", "a"⟩ "t")).1 =
        .response (bodyFor .head (showManifest m)) ∧
      (serve r (manifestRequest {} .get ⟨"r.io", "a"⟩ "t")).1 = .response (showManifest m) ∧
      (Session.run serve (getManifest {} ⟨"r.io", "a"⟩ "t").run r).result =
        .ok ([], keptDescriptor "m") ∧
      (Session.run serve (headManifest {} ⟨"r.io", "a"⟩ "t").run r).result =
        .ok (keptDescriptor "m") := by
  intro m r
  have hmirrors := Registry.mirrors_showManifest m
  have hhead := serve_keeping "m; q=1" (by decide : Method.head ≠ .put)
  have hget := serve_keeping "m; q=1" (by decide : Method.get ≠ .put)
  have hfetched := result_getManifest_keeping "m; q=1"
  have hshort : ¬ Decimal.maxDigits < Decimal.digitCount 2 := by decide +kernel
  have htyped : ¬ (bodyFor .head (showManifest m)).readUtf8.Untyped := by
    intro h
    obtain ⟨t, ht, hbare⟩ := h
    rw [(Registry.header?_showManifest _).2.1, Option.some.injEq] at ht
    rw [← ht] at hbare
    exact absurd hbare (by decide +kernel)
  exact ⟨hmirrors, hhead, hget, hfetched, (described_alike_iff hhead hget hget hmirrors hfetched).1.2
    fun h => h.2.elim htyped hshort⟩

/-- A type that is blank before its parameters is taken as it is from the headers, and the common
type of images takes its place if the manifest is fetched. -/
theorem blank_type_described_apart :
    let m := keptAs "; charset=utf-8"
    let r := keeping "; charset=utf-8"
    (bodyFor .head (showManifest m)).readUtf8.Mirrors (showManifest m).readUtf8 ∧
      (serve r (manifestRequest {} .head ⟨"r.io", "a"⟩ "t")).1 =
        .response (bodyFor .head (showManifest m)) ∧
      (serve r (manifestRequest {} .get ⟨"r.io", "a"⟩ "t")).1 = .response (showManifest m) ∧
      (Session.run serve (getManifest {} ⟨"r.io", "a"⟩ "t").run r).result =
        .ok ([], keptDescriptor MediaType.imageManifest) ∧
      (Session.run serve (headManifest {} ⟨"r.io", "a"⟩ "t").run r).result =
        .ok (keptDescriptor []) ∧
      keptDescriptor [] ≠ keptDescriptor MediaType.imageManifest :=
  ⟨Registry.mirrors_showManifest _, serve_keeping _ (by decide), serve_keeping _ (by decide),
    result_getManifest_keeping _, by decide +kernel, by decide +kernel⟩

end Remote
end Signet
