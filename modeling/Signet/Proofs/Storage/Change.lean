import Mathlib
import Signet.Proofs.Registry.Change
import Signet.Proofs.Storage.Kept
import Signet.Proofs.Storage.Outcome
import Signet.Proofs.Storage.Push

/-!
# What a store changes

A store touches one repository: that of the artifact or, in the oldest format, the one that
takes its place. Whether it succeeds or fails, blobs are only added there under their digests. A
manifest changes only under the tag of the kind and under the digest of what is pushed, a list
of referrers only at the subject of what is pushed, and neither changes if the store fails.

## Main definitions

* `Storing.Changes` — all that the run of a store may change.
-/
namespace Signet
namespace Storing

open Attempt (Yields)
open Registry (keyOf InLine)

variable {remote : RemoteOptions} {o : StoreOptions} {q : StoreRequest} {r : Registry}
  {image : ReadyImage} {xs : List Exchange}

/-- The manifest was pushed in one of the exchanges. -/
def Pushed (xs : List Exchange) (manifest : Bytes) : Prop :=
  ∃ x ∈ xs, x.1.PushesManifest ∧ x.1.data = some manifest

/-- All that the run of a store may change in a registry. -/
structure Changes (o : StoreOptions) (q : StoreRequest) (r : Registry)
    (run : Session.Run Registry (Except StoreFailure Unit)) : Prop where
  /-- At most one manifest is pushed. -/
  once : ∀ manifest manifest', Pushed run.exchanges manifest → Pushed run.exchanges manifest' →
    manifest = manifest'
  /-- A manifest that is not as before stands under the digest of the pushed one or, in the oldest
  format, under the tag of the kind. -/
  manifest : ∀ key, Assoc.lookup key run.state.manifests ≠ Assoc.lookup key r.manifests →
    ∃ manifest, Pushed run.exchanges manifest ∧
      (key = keyOf (destination o q) (sha256Digest manifest) ∨
        Format.routed o.format = .legacy ∧
          ∃ tag, q.artifact.tag? q.kind.suffix = some tag ∧ key = keyOf (destination o q) tag)
  /-- Blobs that are there stay. -/
  blob : ∀ key content, Assoc.lookup key r.blobs = some content →
    Assoc.lookup key run.state.blobs = some content
  /-- New blobs stand under their digests. -/
  added : ∀ key content, Assoc.lookup key run.state.blobs = some content →
    Assoc.lookup key r.blobs = none → key = keyOf (destination o q) (sha256Digest content)
  /-- Tag images are not referrers. -/
  unlisted : Format.routed o.format = .legacy → run.state.referrers = r.referrers
  /-- A list of referrers that is not as before is that of the pushed subject, with the digest of
  the pushed manifest at its end. -/
  listed : ∀ key, Assoc.lookup key run.state.referrers ≠ Assoc.lookup key r.referrers →
    ∃ manifest v subject, Pushed run.exchanges manifest ∧ Json.readBytes manifest = .ok v ∧
      Registry.subject? v = some subject ∧ key = keyOf q.artifact.repository subject ∧
      Assoc.lookup key run.state.referrers =
        some ((Assoc.lookup key r.referrers).getD [] ++ [sha256Digest manifest])
  /-- A store that fails changes no manifest and no list of referrers. -/
  failed : ∀ e, run.result = .error e →
    run.state.manifests = r.manifests ∧ run.state.referrers = r.referrers

theorem pushed_unique {result : Except StoreFailure Unit}
    (h : Yields (storeWith remote o q) xs result) (manifest manifest' : Bytes)
    (hpushed : Pushed xs manifest) (hpushed' : Pushed xs manifest') : manifest = manifest' := by
  obtain ⟨x, hx, hpush, hdata⟩ := hpushed
  obtain ⟨x', hx', hpush', hdata'⟩ := hpushed'
  rcases storeCourse h with ⟨hquiet, -⟩ | ⟨before, push, reply, rfl, hquiet, -⟩
  · exact absurd hpush (hquiet x hx)
  · have hlast {y : Exchange} (hy : y ∈ before ++ [(push, reply)]) (hypush : y.1.PushesManifest) :
        y = (push, reply) := by
      rcases List.mem_append.1 hy with hy | hy
      · exact absurd hypush (hquiet y hy)
      · exact List.mem_singleton.1 hy
    rw [hlast hx hpush] at hdata
    rw [hlast hx' hpush', hdata] at hdata'
    exact Option.some.inj hdata'

section Changes

variable {run : Session.Run Registry (Except StoreFailure Unit)}
  (honce : ∀ manifest manifest', Pushed run.exchanges manifest → Pushed run.exchanges manifest' →
    manifest = manifest')
include honce

/-- A run that adds blobs at most changes nothing else. -/
theorem Changes.of_adds (h : Registry.Adds (destination o q) r run.state) : Changes o q r run where
  once := honce
  manifest := by
    intro key hne
    rw [h.manifests] at hne
    exact absurd rfl hne
  blob := fun _ _ => h.kept
  added := fun _ _ => h.added
  unlisted := fun _ => h.referrers
  listed := by
    intro key hne
    rw [h.referrers] at hne
    exact absurd rfl hne
  failed := fun _ _ => ⟨h.manifests, h.referrers⟩

/-- A run that adds blobs and then keeps the manifest of a prepared image changes what that image
is placed at. -/
theorem Changes.of_keep {added : Registry} {config manifest : Bytes} (hplaced : Placed o q image)
    (hrepository : image.repository = destination o q)
    (hadds : Registry.Adds image.repository r added)
    (hmanifest : (imageManifest image.placement config image.layers).canonical = .ok manifest)
    (hpushed : Pushed run.exchanges manifest)
    (hstate : run.state = added.keep image.repository (image.placement.reference manifest)
      (Registry.subjectDigest? image.placement) manifest)
    (hresult : run.result = .ok ()) : Changes o q r run where
  once := honce
  manifest := by
    intro key hne
    refine ⟨manifest, hpushed, ?_⟩
    rw [hstate, Registry.lookup_manifests_keep, hadds.manifests] at hne
    rw [← hrepository]
    split_ifs at hne with hkey
    · rcases hkey with hdigest | hreference
      · exact .inl hdigest
      · cases hplaced with
        | tagged hformat htag hplacement =>
          rw [hplacement] at hreference
          exact .inr ⟨hformat, _, htag, hreference⟩
        | subject _ hplacement =>
          rw [hplacement] at hreference
          exact .inl hreference
    · exact absurd rfl hne
  blob := by
    intro key content hkey
    rw [hstate]
    exact hadds.kept hkey
  added := by
    intro key content hkey hnone
    rw [hstate] at hkey
    rw [← hrepository]
    exact hadds.added hkey hnone
  unlisted := by
    intro hformat
    cases hplaced with
    | tagged _ _ hplacement =>
      rw [hstate, hplacement]
      exact hadds.referrers
    | subject hother _ => exact absurd hformat hother
  listed := by
    intro key hne
    have hreferrers : run.state.referrers = added.noted image.repository (sha256Digest manifest)
        (Registry.subjectDigest? image.placement) := by
      rw [hstate]
      rfl
    rw [hreferrers, ← hadds.referrers] at hne ⊢
    obtain ⟨subject, hsubject, hkey, hlisted⟩ := Registry.noted_of_ne hne
    refine ⟨manifest, _, subject, hpushed, readBytes_manifest hmanifest, ?_, ?_, hlisted⟩
    · rw [Registry.subject?_imageManifest, ← hsubject]
      cases image.placement <;> rfl
    · cases hplaced with
      | tagged _ _ hplacement =>
        rw [hplacement] at hsubject
        cases hsubject
      | subject hformat _ =>
        rw [hkey, hrepository, destination, if_neg hformat]
  failed := by
    intro e he
    rw [hresult] at he
    cases he

end Changes

/-- Whatever comes of a store, only the repository that it writes to is touched. There blobs are
added under their digests; manifests change under the tag of the kind, in the oldest format, and
under the digest of the pushed one; the list of referrers of the pushed subject gets one digest
more, in the other formats; and a store that fails changes no manifest and no list. -/
theorem store_changes (r : Registry) (remote : RemoteOptions) (o : StoreOptions)
    (q : StoreRequest) {reference : Text} (hparse : Artifact.parse reference = .ok q.artifact)
    (hline : InLine q.artifact.repository)
    (hoverride : ∀ repository, o.repository = some repository →
      (∃ name, Repository.parse name = .ok repository) ∧ InLine repository) :
    Changes o q r (runStore Registry.serve remote o q r) := by
  have hartifact := Artifact.parsed_of_parse hparse
  have htarget := parsed_target hartifact fun repository h => (hoverride repository h).1
  have hdestination : InLine (destination o q) := by
    rw [destination, target]
    split_ifs
    · cases hrepository : o.repository with
      | none => exact hline
      | some repository => exact (hoverride repository hrepository).2
    · exact hline
  have hyields := Attempt.yields_run Registry.serve (storeWith remote o q) r
  have hserved := Session.served_run Registry.serve (storeWith remote o q).run r
  have honce := pushed_unique hyields
  generalize hfinal : (Session.run Registry.serve (storeWith remote o q).run r).state = final
    at hserved
  rcases yields_storeWith.1 hyields with
    ⟨e, he, hresult⟩ | ⟨ys, zs, image, res, hxs, himage, hwrite, hresult⟩
  · refine .of_adds honce ?_
    rw [hfinal]
    exact Registry.adding_of_reads sends_prepare he hserved
  · rw [hxs] at hserved
    obtain ⟨middle, hys, hzs⟩ := Session.served_append.1 hserved
    have hprepared := Registry.outcome_eq_of_yields himage hys
    rw [(Registry.served_reads (sends_prepare himage) hys).1] at hzs
    obtain ⟨hrepository, hplaced⟩ := placed_of_prepare himage
    obtain ⟨hparsed, hwhole⟩ := whole_of_prepared hartifact htarget hprepared
    have hwritten := Registry.written hparsed (hrepository ▸ hdestination) hwrite hzs hwhole
    cases hwritten with
    | failed hadds e =>
      refine .of_adds honce ?_
      rwa [hfinal, ← hrepository]
    | @kept added config manifest reply hadds hmanifest hpush digest =>
      have hpushed : Pushed (runStore Registry.serve remote o q r).exchanges manifest := by
        refine ⟨(Remote.pushRequest remote image.repository (image.placement.reference manifest)
          manifest MediaType.imageManifest, reply), ?_, ⟨rfl, rfl⟩, rfl⟩
        rw [hxs]
        exact List.mem_append_right _ hpush
      exact .of_keep honce hplaced hrepository hadds hmanifest hpushed hfinal hresult

theorem store_changes_elsewhere :
    (Artifact.parse sampleReference = .ok sampleRequest.artifact ∧
      InLine sampleRequest.artifact.repository ∧
      ∀ repository, elsewhere.repository = some repository →
        (∃ name, Repository.parse name = .ok repository) ∧ InLine repository) ∧
    Changes elsewhere sampleRequest keptElsewhere
      (runStore Registry.serve {} elsewhere sampleRequest keptElsewhere) := by
  have hline : InLine sampleRequest.artifact.repository := by decide
  have hoverride : ∀ repository, elsewhere.repository = some repository →
      (∃ name, Repository.parse name = .ok repository) ∧ InLine repository := by
    intro repository h
    refine ⟨parse_sampleOverride repository h, ?_⟩
    cases h
    decide
  exact ⟨⟨parse_sampleReference, hline, hoverride⟩,
    store_changes keptElsewhere {} elsewhere sampleRequest parse_sampleReference hline hoverride⟩

end Storing
end Signet
