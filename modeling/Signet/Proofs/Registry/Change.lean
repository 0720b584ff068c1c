import Mathlib
import Signet.Proofs.Registry.Deposit

/-!
# What writing an image changes

Whatever comes of it, writing an image to a repository whose name has no line feed adds blobs
to that repository under their digests, and then keeps at most the one manifest that is pushed.
`Adds` holds of every upload, whatever its end, so it holds of any number of them.

## Main definitions

* `Registry.Adds` — blobs are added to a repository, and nothing else changes.
* `Registry.Written` — the registries that writing an image may leave, with its results.
-/
namespace Signet

open Attempt (Yields Sends)
open Session (Served)

namespace Registry

variable {ε α β : Type} {r r' r'' : Registry} {o : RemoteOptions} {repository : Repository}
  {layers : List Layer} {placement : Placement} {xs : List Exchange}

/-! ## Adding blobs -/

/-- Blobs are added to the repository under their digests. Those that are there stay, and
manifests and lists of referrers do too. -/
structure Adds (repository : Repository) (r r' : Registry) : Prop where
  manifests : r'.manifests = r.manifests
  referrers : r'.referrers = r.referrers
  kept : ∀ {key content}, Assoc.lookup key r.blobs = some content →
    Assoc.lookup key r'.blobs = some content
  added : ∀ {key content}, Assoc.lookup key r'.blobs = some content →
    Assoc.lookup key r.blobs = none → key = keyOf repository (sha256Digest content)

namespace Adds

theorem refl (r : Registry) : Adds repository r r where
  manifests := rfl
  referrers := rfl
  kept := id
  added := by
    intro key content hkey hnone
    rw [hkey] at hnone
    cases hnone

theorem trans (h : Adds repository r r') (h' : Adds repository r' r'') :
    Adds repository r r'' where
  manifests := h'.manifests.trans h.manifests
  referrers := h'.referrers.trans h.referrers
  kept := fun hkey => h'.kept (h.kept hkey)
  added := by
    intro key content hkey hnone
    cases hmiddle : Assoc.lookup key r'.blobs with
    | none => exact h'.added hkey hmiddle
    | some content' =>
      have hstays := h'.kept hmiddle
      rw [hkey] at hstays
      cases hstays
      exact h.added hmiddle hnone

end Adds

/-- An upload adds its content at most. -/
theorem Uploaded.adds {content : Bytes} (h : Uploaded o repository content r r')
    (hparsed : repository.Parsed) (hline : InLine repository) : Adds repository r r' := by
  cases h with
  | kept => exact .refl r
  | started => exact ⟨rfl, rfl, id, (Adds.refl r).added⟩
  | added hname habsent =>
    obtain rfl := eq_of_uploadName? hparsed hline hname
    refine ⟨rfl, rfl, ?_, ?_⟩
    · intro key found hkey
      have hne : key ≠ keyOf repository (sha256Digest content) := by
        rintro rfl
        rw [habsent] at hkey
        cases hkey
      rwa [Assoc.lookup_put, if_neg hne]
    · intro key found hkey hnone
      rw [Assoc.lookup_put] at hkey
      split_ifs at hkey with heq
      · cases hkey
        exact heq
      · rw [hnone] at hkey
        cases hkey

/-- Whatever comes of the attempt, it adds blobs to the repository at most. -/
def Adding (repository : Repository) (attempt : Attempt ε α) : Prop :=
  ∀ ⦃r r' : Registry⦄ ⦃xs : List Exchange⦄ ⦃res : Except ε α⦄, Yields attempt xs res →
    Served serve r xs r' → Adds repository r r'

theorem adding_of_reads {attempt : Attempt ε α} (h : Sends Request.Reads attempt) :
    Adding repository attempt := by
  intro r r' xs res hxs hs
  rw [(served_reads (h hxs) hs).1]
  exact .refl r

theorem Adding.bind {attempt : Attempt ε α} {f : α → Attempt ε β} (h : Adding repository attempt)
    (hf : ∀ a, Adding repository (f a)) : Adding repository (attempt >>= f) := by
  intro r r' xs res hxs hs
  rcases Attempt.yields_bind.1 hxs with ⟨e, he, -⟩ | ⟨ys, zs, a, rfl, ha, hres⟩
  · exact h he hs
  · obtain ⟨middle, hys, hzs⟩ := Session.served_append.1 hs
    exact (h ha hys).trans (hf a hres hzs)

section Uploads

variable (hparsed : repository.Parsed) (hline : InLine repository)
include hparsed hline

theorem adding_uploadBlob (content : Bytes) :
    Adding repository (Remote.uploadBlob o repository content) :=
  fun _ _ _ _ hxs hs => (uploaded hparsed hxs hs).adds hparsed hline

/-- Any number of uploads adds blobs to the repository at most, whichever of them fails. -/
theorem adding_uploadParts (config : Bytes) (layers : List Layer) :
    Adding repository (Remote.uploadParts o repository config layers) := by
  refine (adding_uploadBlob hparsed hline config).bind ?_
  intro _
  induction layers with
  | nil => exact adding_of_reads (Attempt.sends_pure _)
  | cons layer rest ih => exact (adding_uploadBlob hparsed hline _).bind fun _ => ih

end Uploads

/-! ## Noting a manifest -/

/-- A list of referrers that changes when a manifest is noted is that of its subject, and the
digest is added to its end. -/
theorem noted_of_ne {digest : Text} {subject? : Option Text} {key : Key}
    (h : Assoc.lookup key (r.noted repository digest subject?) ≠ Assoc.lookup key r.referrers) :
    ∃ subject, subject? = some subject ∧ key = keyOf repository subject ∧
      Assoc.lookup key (r.noted repository digest subject?) =
        some ((Assoc.lookup key r.referrers).getD [] ++ [digest]) := by
  cases subject? with
  | none => exact absurd rfl h
  | some subject =>
    rw [noted, Assoc.lookup_put] at h ⊢
    by_cases hkey : key = keyOf repository subject
    · refine ⟨subject, rfl, hkey, ?_⟩
      rw [if_pos hkey] at h ⊢
      subst hkey
      by_cases hmem : digest ∈ (Assoc.lookup (keyOf repository subject) r.referrers).getD []
      · -- The digest was listed already, so the list is as it was.
        rw [if_pos hmem] at h
        cases hlisted : Assoc.lookup (keyOf repository subject) r.referrers with
        | none => simp [hlisted] at hmem
        | some listed => simp [hlisted] at h
      · rw [if_neg hmem]
    · rw [if_neg hkey] at h
      exact absurd rfl h

/-! ## Writing -/

/-- What writing an image may leave, with its exchanges and its result. -/
inductive Written (o : RemoteOptions) (repository : Repository) (layers : List Layer)
    (placement : Placement) (xs : List Exchange) (r : Registry) :
    Registry → Except RemoteFailure Text → Prop where
  /-- It failed, and only blobs were added. -/
  | failed {r' : Registry} (h : Adds repository r r') (e : RemoteFailure) :
    Written o repository layers placement xs r r' (.error e)
  /-- The manifest was pushed and is kept. -/
  | kept {added : Registry} {config manifest : Bytes} {reply : Reply} (h : Adds repository r added)
    (hmanifest : (imageManifest placement config layers).canonical = .ok manifest)
    (hpush : (Remote.pushRequest o repository (placement.reference manifest) manifest
      MediaType.imageManifest, reply) ∈ xs) (digest : Text) :
    Written o repository layers placement xs r (added.keep repository
      (placement.reference manifest) (subjectDigest? placement) manifest) (.ok digest)

theorem written (hparsed : repository.Parsed) (hline : InLine repository)
    {res : Except RemoteFailure Text}
    (hxs : Yields (Remote.writeImage o repository layers placement) xs res)
    (hs : Served serve r xs r') (hwhole : ∀ manifest, Remote.Whole (placement.reference manifest)) :
    Written o repository layers placement xs r r' res := by
  obtain ⟨config, -, hcourse⟩ := Remote.writeCourse hxs
  cases hcourse with
  | notUploaded hupload | unwritable hupload _ =>
    exact .failed (adding_uploadParts hparsed hline _ _ hupload hs) _
  | @pushed ys manifest reply hupload hmanifest =>
    obtain ⟨added, hys, hreply, rfl⟩ := Session.served_append.1 hs
    have hadds := adding_uploadParts hparsed hline _ _ hupload hys
    simp only [serve_push hparsed (hwhole manifest)] at hreply ⊢
    have htaken : (∃ digest, Remote.understood
        (Remote.pushRequest o repository (placement.reference manifest) manifest
          MediaType.imageManifest)
        (Remote.checkPushed repository (placement.reference manifest) manifest) reply =
          .ok digest) ↔ Remote.Taken reply := Remote.understood_pushed_iff
    rcases takeManifest_image_cases added repository hmanifest (placement.reference manifest) with
      ⟨body, hrefused⟩ | ⟨-, hkept⟩
    · rw [hrefused] at hreply ⊢
      have hnot : ¬ Remote.Taken reply := by
        rintro ⟨p, rfl, hp⟩
        cases hreply
        simp [answer] at hp
      cases hresult : Remote.understood _ _ reply with
      | ok digest => exact absurd (htaken.1 ⟨digest, hresult⟩) hnot
      | error e => exact .failed hadds e
    · rw [hkept] at hreply ⊢
      obtain ⟨digest, hdigest⟩ := htaken.2 ⟨_, hreply, .inr (.inl rfl)⟩
      rw [hdigest]
      exact .kept hadds hmanifest (List.mem_append_right _ (List.mem_singleton_self _)) digest

end Registry
end Signet
