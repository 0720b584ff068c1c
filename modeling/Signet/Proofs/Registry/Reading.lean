import Mathlib
import Signet.Proofs.Registry.Growth

/-!
# What is read from a registry

Reading leaves a registry as it is, so what comes of reading is a function of the registry:
the outcome of one attempt after the other is computed from the outcomes of both. The layers
of a tag image are read exactly if each of them is described by the manifest and its content
is given out.
-/
namespace Signet

open Attempt (Yields Sends)
open Session (Served)

namespace Registry

variable {ε α β : Type} {r r' : Registry} {o : RemoteOptions} {repository : Repository}

/-! ## Outcomes -/

/-- What comes of an attempt against a registry. -/
def outcome (r : Registry) (attempt : Attempt ε α) : Except ε α :=
  (Session.run serve attempt.run r).result

@[simp] theorem outcome_pure (a : α) : outcome r (pure a : Attempt ε α) = .ok a := rfl

/-- A course that the registry answers has its outcome. -/
theorem outcome_eq_of_yields {attempt : Attempt ε α} {xs : List Exchange} {res : Except ε α}
    (h : Yields attempt xs res) (hs : Served serve r xs r') : outcome r attempt = res :=
  Session.result_eq_of_yields h hs

/-- An attempt that only reads does not change what comes after it. -/
theorem outcome_bind {attempt : Attempt ε α} (h : Sends Request.Reads attempt)
    (f : α → Attempt ε β) :
    outcome r (attempt >>= f) = outcome r attempt >>= fun a => outcome r (f a) := by
  have hstate : (Session.run serve attempt.run r).state = r :=
    (served_reads (h (Attempt.yields_run serve attempt r)) (Session.served_run serve _ r)).1
  have hrun : (attempt >>= f).run = attempt.run >>= ExceptT.bindCont f := rfl
  rw [outcome, hrun, Session.run_bind]
  dsimp only
  rw [hstate]
  cases hresult : (Session.run serve attempt.run r).result with
  | error e =>
    rw [outcome, hresult]
    rfl
  | ok a =>
    rw [outcome, hresult]
    rfl

/-- An attempt behind one that only reads succeeds if both do. -/
theorem outcome_bind_eq_ok_iff {attempt : Attempt ε α} (h : Sends Request.Reads attempt)
    {f : α → Attempt ε β} {b : β} :
    outcome r (attempt >>= f) = .ok b ↔
      ∃ a, outcome r attempt = .ok a ∧ outcome r (f a) = .ok b := by
  rw [outcome_bind h]
  cases outcome r attempt with
  | error e => simp [Bind.bind, Except.bind]
  | ok a => simp [Bind.bind, Except.bind]

/-- An attempt behind one that only reads fails if one of both does. -/
theorem outcome_bind_eq_error_iff {attempt : Attempt ε α} (h : Sends Request.Reads attempt)
    {f : α → Attempt ε β} {e : ε} :
    outcome r (attempt >>= f) = .error e ↔
      outcome r attempt = .error e ∨
        ∃ a, outcome r attempt = .ok a ∧ outcome r (f a) = .error e := by
  rw [outcome_bind h]
  cases outcome r attempt with
  | error e' => simp [Bind.bind, Except.bind]
  | ok a => simp [Bind.bind, Except.bind]

theorem outcome_recover {ε' : Type} (attempt : Attempt ε α) (f : ε → Except ε' α) :
    outcome r (attempt.recover f) =
      match outcome r attempt with
      | .ok a => .ok a
      | .error e => f e := by
  rw [outcome, Attempt.recover, ExceptT.run_mk, Session.run_bind]
  dsimp only
  rw [outcome]
  cases (Session.run serve attempt.run r).result <;> rfl

/-- The response to a request, as it is seen. -/
def replyTo (r : Registry) (q : Request) : Response :=
  (bodyFor q.method (r.respond q).1).readUtf8

theorem replyTo_of_serve {q : Request} {response : RawResponse}
    (h : serve r q = (.response response, r')) : replyTo r q = response.readUtf8 :=
  Reply.received.inj (congrArg Prod.fst h)

theorem outcome_ask (q : Request) (understand : Response → Except RemoteFailure α) :
    outcome r (Remote.ask q understand) = understand (replyTo r q) := by
  have hyields : Yields (Remote.ask q understand) [(q, (serve r q).1)]
      (understand (replyTo r q)) := Remote.yields_ask.2 ⟨_, rfl, rfl⟩
  exact outcome_eq_of_yields hyields ⟨rfl, rfl⟩

/-! ## Replies -/

/-- The reply to a question about a manifest. -/
theorem replyTo_manifest (h : repository.Parsed) {reference : Text}
    (hwhole : Remote.Whole reference) {method : Method} (hmethod : method ≠ .put) :
    replyTo r (Remote.manifestRequest o method repository reference) =
      (bodyFor method (match Assoc.lookup (keyOf repository reference) r.manifests with
        | some m => showManifest m
        | none => answer 404)).readUtf8 := by
  obtain ⟨t, htarget, hhost, hquery⟩ := Remote.query?_manifest (o := o) h hwhole
  have hrespond : (r.respond (Remote.manifestRequest o method repository reference)).1 =
      match Assoc.lookup (keyOf repository reference) r.manifests with
        | some m => showManifest m
        | none => answer 404 := by
    have hurl : (Remote.manifestRequest o method repository reference).url =
        o.url repository ("manifests/" ++ reference) := rfl
    have hput : (Remote.manifestRequest o method repository reference).method ≠ .put := hmethod
    have hkey : (⟨t.host ++ "/" ++ repository.path, reference⟩ : Key) =
        keyOf repository reference := by rw [hhost]; rfl
    rw [respond, hurl, htarget]
    simp only [hquery, if_neg hput, hkey]
    cases Assoc.lookup (keyOf repository reference) r.manifests <;> rfl
  rw [replyTo, hrespond]
  rfl

/-- The address of a blob with a digest that is given names a manifest. -/
def NamesManifest (repository : Repository) (digest : Text) : Prop :=
  ∃ name reference, query? (repository.path.split '/' ++
    (beforeMarks ("blobs/" ++ digest)).split '/') = some (.manifest name reference)

/-- A digest without a slash names a blob. -/
theorem not_namesManifest {digest : Text} (h : ('/' : CodePoint) ∉ digest) :
    ¬ NamesManifest repository digest := by
  have hbefore : beforeMarks ("blobs/" ++ digest) = "blobs/" ++ beforeMarks digest :=
    beforeMarks_append (by decide) digest
  have hslash : ('/' : CodePoint) ∉ beforeMarks digest :=
    fun hc => h (List.takeWhile_subset _ hc)
  have hkind : ("blobs/" : Text) ++ beforeMarks digest =
      "blobs" ++ ('/' : CodePoint) :: beforeMarks digest := by
    have hmark : Text.ofString "blobs/" = "blobs" ++ [CodePoint.ofChar '/'] := rfl
    simp [hmark]
  have hblobs : Text.split "blobs" '/' = [("blobs" : Text)] := rfl
  rintro ⟨name, reference, hquery⟩
  rw [hbefore, hkind, Text.split_append_cons, Text.split_of_not_mem hslash, hblobs,
    List.singleton_append, query?_append (Text.split_ne_nil _ _),
    if_neg (by rintro ⟨hne, -⟩; exact absurd hne (by decide)), if_pos rfl] at hquery
  cases hquery

/-- What comes back for a blob, by what its address names. -/
theorem replyTo_blob (h : repository.Parsed) (digest : Text) :
    replyTo r (Remote.blobRequest o .get repository digest) =
      RawResponse.readUtf8 (match query? (repository.path.split '/' ++
        (beforeMarks ("blobs/" ++ digest)).split '/') with
      | none => answer 404 "not found"
      | some (.upload _) => answer 400 "digest mismatch"
      | some (.blob name reference) =>
        match Assoc.lookup ⟨repository.registry ++ "/" ++ name, reference⟩ r.blobs with
        | some content => ⟨200, [], content⟩
        | none => answer 404
      | some (.referrers _ _) =>
        if r.listsReferrers then answer 200 "\x7b\x7d" else answer 404 "404 page not found"
      | some (.manifest name reference) =>
        match Assoc.lookup ⟨repository.registry ++ "/" ++ name, reference⟩ r.manifests with
        | some m => showManifest m
        | none => answer 404) := by
  have hurl : (Remote.blobRequest o .get repository digest).url =
      o.url repository ("blobs/" ++ digest) := rfl
  have hreply : replyTo r (Remote.blobRequest o .get repository digest) =
      (r.respond (Remote.blobRequest o .get repository digest)).1.readUtf8 := rfl
  rw [hreply, respond, hurl, Remote.target?_url h]
  dsimp only
  cases query? (repository.path.split '/' ++ (beforeMarks ("blobs/" ++ digest)).split '/') with
  | none => rfl
  | some q =>
    cases q with
    | upload name => rfl
    | blob name reference =>
      dsimp only
      cases Assoc.lookup ⟨repository.registry ++ "/" ++ name, reference⟩ r.blobs <;> rfl
    | referrers name reference =>
      dsimp only
      cases r.listsReferrers <;> rfl
    | manifest name reference =>
      have hput : (Remote.blobRequest o .get repository digest).method ≠ .put := by
        simp [Remote.blobRequest, RemoteOptions.request]
      dsimp only
      rw [if_neg hput]
      cases Assoc.lookup ⟨repository.registry ++ "/" ++ name, reference⟩ r.manifests <;> rfl

/-- A registry that has grown gives out content with the same digest, unless a manifest is asked
for as if it was a blob. -/
theorem readBlob_of_grows {only : Key → Prop} (hg : Grows only r r') (h : repository.Parsed)
    (o' : RemoteOptions) {digest : Text} (hnames : ¬ NamesManifest repository digest)
    {content : Bytes}
    (hread : Remote.readBlob repository digest
      (replyTo r (Remote.blobRequest o .get repository digest)) = .ok content) :
    ∃ content', Remote.readBlob repository digest
        (replyTo r' (Remote.blobRequest o' .get repository digest)) = .ok content' ∧
      sha256Digest content' = sha256Digest content := by
  rw [replyTo_blob h] at hread ⊢
  cases hquery : query? (repository.path.split '/' ++
      (beforeMarks ("blobs/" ++ digest)).split '/') with
  | none =>
    rw [hquery, Remote.readBlob_eq_ok_iff] at hread
    exact absurd hread.1 (by simp [answer])
  | some q =>
    cases q with
    | upload name =>
      rw [hquery, Remote.readBlob_eq_ok_iff] at hread
      exact absurd hread.1 (by simp [answer])
    | blob name reference =>
      rw [hquery] at hread
      dsimp only at hread ⊢
      cases hlookup : Assoc.lookup ⟨repository.registry ++ "/" ++ name, reference⟩ r.blobs with
      | none =>
        rw [hlookup, Remote.readBlob_eq_ok_iff] at hread
        exact absurd hread.1 (by simp [answer])
      | some found =>
        rw [hlookup, Remote.readBlob_eq_ok_iff] at hread
        obtain ⟨-, hdigest, rfl⟩ := hread
        obtain ⟨content', hlookup', hsame⟩ := hg.blob hlookup
        refine ⟨content', ?_, hsame⟩
        rw [hlookup', Remote.readBlob_eq_ok_iff]
        exact ⟨rfl, fun hstart => hsame.trans (hdigest hstart), rfl⟩
    | referrers name reference =>
      rw [hquery] at hread
      dsimp only at hread ⊢
      exact ⟨content, by rwa [hg.listsReferrers], rfl⟩
    | manifest name reference => exact absurd ⟨name, reference, hquery⟩ hnames

end Registry
end Signet
