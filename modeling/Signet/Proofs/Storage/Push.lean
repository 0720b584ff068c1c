import Mathlib
import Signet.Proofs.Storage.Prepared

/-!
# The manifest comes last

Against every server, the manifest is the last thing that a store sends, and it is sent only
when the registry acknowledged everything that it names. A store succeeds exactly if the
registry takes the manifest.
-/
namespace Signet
namespace Storing

open Attempt (Yields Sends)

/-- The value describes the content by its digest and its length. -/
def Describes (v : Json) (content : Bytes) : Prop :=
  v.member? "digest" = some (.text (sha256Digest content)) ∧
    v.member? "size" = some (.int content.length)

/-- The manifest names the configuration and the layers, and nothing else as one of them. -/
structure NamesParts (manifest : Json) (config : Bytes) (layers : List Layer) : Prop where
  config : ∃ v, manifest.member? "config" = some v ∧ Describes v config
  layers : ∃ vs, manifest.member? "layers" = some (.array vs) ∧
    List.Forall₂ (fun v l => Describes v l.content) vs layers

/-- The request pushes the manifest of the image that was prepared, after exchanges in which
everything that the manifest names was acknowledged. -/
structure PushedOver (remote : RemoteOptions) (o : StoreOptions) (q : StoreRequest)
    (before : List Exchange) (push : Request) (image : ReadyImage) (config manifest : Bytes) :
    Prop where
  prepared : ∃ ys zs, before = ys ++ zs ∧ Yields (prepare remote o q) ys (.ok image)
  written : (image.placement.config image.layers).canonical = .ok config
  data : push.data = some manifest
  names : ∃ v, Json.readBytes manifest = .ok v ∧ NamesParts v config image.layers
  acknowledged : Remote.Acknowledged remote image.repository (sha256Digest config) before
  acknowledgedLayers : ∀ l ∈ image.layers,
    Remote.Acknowledged remote image.repository (sha256Digest l.content) before
  url : push.url =
    remote.url image.repository ("manifests/" ++ image.placement.reference manifest)
  byDigest : Format.routed o.format ≠ .legacy →
    push.url = remote.url image.repository ("manifests/" ++ sha256Digest manifest)

variable {remote : RemoteOptions} {o : StoreOptions} {q : StoreRequest} {xs : List Exchange}

theorem namesParts_imageManifest {placement : Placement} {config bytes : Bytes}
    {layers : List Layer} (h : (imageManifest placement config layers).canonical = .ok bytes) :
    ∃ v, Json.readBytes bytes = .ok v ∧ NamesParts v config layers := by
  refine ⟨_, readBytes_manifest h, ⟨_, member?_config, ?_⟩, _, member?_layers, ?_⟩
  · exact ⟨Descriptor.member?_digest _, Descriptor.member?_size _⟩
  · rw [List.forall₂_map_left_iff]
    apply List.forall₂_same.2
    intro l _
    exact ⟨Descriptor.member?_digest _, Descriptor.member?_size _⟩

/-- Preparing an image pushes no manifest, so none is pushed before one of the exchanges behind
it. -/
theorem quiet_append {ys ws : List Exchange} {r : Except StoreFailure ReadyImage}
    (himage : Yields (prepare remote o q) ys r) (hws : ∀ x ∈ ws, ¬ x.1.PushesManifest) :
    ∀ x ∈ ys ++ ws, ¬ x.1.PushesManifest := by
  intro x hx
  rcases List.mem_append.1 hx with hx | hx
  · exact (sends_prepare himage x hx).not_pushesManifest
  · exact hws x hx

/-- A store either fails without a manifest, or ends with the request that pushes it. -/
theorem storeCourse {r : Except StoreFailure Unit} (h : Yields (storeWith remote o q) xs r) :
    ((∀ x ∈ xs, ¬ x.1.PushesManifest) ∧ ∃ e, r = .error e) ∨
    ∃ before push reply, xs = before ++ [(push, reply)] ∧
      (∀ x ∈ before, ¬ x.1.PushesManifest) ∧ push.PushesManifest ∧
      (∃ image config manifest, PushedOver remote o q before push image config manifest) ∧
      (r = .ok () ↔ Remote.Taken reply) := by
  rcases yields_storeWith.1 h with ⟨e, he, rfl⟩ | ⟨ys, zs, image, r', rfl, himage, hwrite, rfl⟩
  · exact .inl ⟨fun x hx => (sends_prepare he x hx).not_pushesManifest, e, rfl⟩
  obtain ⟨config, hconfig, hcourse⟩ := Remote.writeCourse hwrite
  cases hcourse with
  | notUploaded hupload =>
    exact .inl ⟨quiet_append himage (Remote.sends_uploadParts _ _ hupload), _, rfl⟩
  | unwritable hupload _ =>
    exact .inl ⟨quiet_append himage (Remote.sends_uploadParts _ _ hupload), _, rfl⟩
  | @pushed ws manifest reply hupload hmanifest =>
    obtain ⟨hack, hacks⟩ := Remote.acknowledged_of_uploadParts hupload
    refine .inr ⟨ys ++ ws, _, reply, (List.append_assoc _ _ _).symm,
      quiet_append himage (Remote.sends_uploadParts _ _ hupload), ⟨rfl, rfl⟩,
      ⟨image, config, manifest, ?_⟩, ?_⟩
    · refine ⟨⟨ys, ws, rfl, himage⟩, hconfig, rfl, namesParts_imageManifest hmanifest,
        ?_, ?_, rfl, ?_⟩
      · simpa using hack.append ys []
      · exact fun l hl => by simpa [Layer.digest] using (hacks l hl).append ys []
      · intro hformat
        have hplacement : ∀ tag, image.placement ≠ .tag tag := by
          simpa [tagged_iff_of_prepare himage] using hformat
        cases hsubject : image.placement with
        | tag reference => exact absurd hsubject (hplacement reference)
        | subject d artifactType annotations => rfl
    · rw [← Remote.understood_pushed_iff]
      cases Remote.understood _ _ reply <;> simp [Except.map, Except.mapError]

/-- The last exchange is the only one that pushes a manifest, and the registry acknowledged its
configuration before. -/
def Pushes (remote : RemoteOptions) (repository : Repository) (xs : List Exchange)
    (config : Bytes) (manifest : Json) : Prop :=
  ∃ before push reply bytes, xs = before ++ [(push, reply)] ∧
    (∀ x ∈ before, ¬ x.1.PushesManifest) ∧ push.PushesManifest ∧ push.data = some bytes ∧
    Json.readBytes bytes = .ok manifest ∧
    Remote.Acknowledged remote repository (sha256Digest config) before

/-- A store that succeeds pushes the image that it prepared. -/
theorem pushes_of_yields (h : Yields (storeWith remote o q) xs (.ok ())) :
    ∃ ys image config, Yields (prepare remote o q) ys (.ok image) ∧ (∃ zs, xs = ys ++ zs) ∧
      (image.placement.config image.layers).canonical = .ok config ∧
      Pushes remote image.repository xs config
        (Json.normal (imageManifest image.placement config image.layers)) := by
  rcases yields_storeWith.1 h with ⟨e, -, he⟩ | ⟨ys, zs, image, r', rfl, himage, hwrite, hr'⟩
  · cases he
  obtain ⟨config, hconfig, hcourse⟩ := Remote.writeCourse hwrite
  refine ⟨ys, image, config, himage, ⟨zs, rfl⟩, hconfig, ?_⟩
  cases hcourse with
  | notUploaded | unwritable => cases hr'
  | @pushed ws bytes reply hupload hmanifest =>
    refine ⟨ys ++ ws, _, reply, bytes, (List.append_assoc _ _ _).symm,
      quiet_append himage (Remote.sends_uploadParts _ _ hupload), ⟨rfl, rfl⟩, rfl,
      readBytes_manifest hmanifest, ?_⟩
    simpa using (Remote.acknowledged_of_uploadParts hupload).1.append ys []

/-- Whatever the server does, a manifest is pushed at most once and last, over acknowledged
content, to its digest unless the format uses tags; and the store succeeds exactly if the
last request pushed a manifest and the registry took it. -/
theorem manifest_pushed_last {σ : Type} (server : Session.Server σ) (state : σ)
    (remote : RemoteOptions) (o : StoreOptions) (q : StoreRequest) :
    (∀ before push after,
      (runStore server remote o q state).exchanges = before ++ push :: after →
      push.1.PushesManifest → after = []) ∧
    (∀ before push reply,
      (runStore server remote o q state).exchanges = before ++ [(push, reply)] →
      push.PushesManifest →
      ∃ image config manifest, PushedOver remote o q before push image config manifest) ∧
    ((runStore server remote o q state).result = .ok () ↔
      ∃ before push reply,
        (runStore server remote o q state).exchanges = before ++ [(push, reply)] ∧
          push.PushesManifest ∧ Remote.Taken reply) := by
  have hyields := Attempt.yields_run server (storeWith remote o q) state
  rcases storeCourse hyields with ⟨hquiet, e, he⟩ |
    ⟨before, push, reply, hxs, hquiet, hpush, hover, hresult⟩
  · refine ⟨?_, ?_, ?_⟩
    · intro before push after hxs hpush
      exact absurd hpush (hquiet push (by simp [hxs]))
    · intro before push reply hxs hpush
      exact absurd hpush (hquiet (push, reply) (by simp [hxs]))
    · constructor
      · intro hok
        rw [he] at hok
        cases hok
      · rintro ⟨before, push, reply, hxs, hpush, -⟩
        exact absurd hpush (hquiet (push, reply) (by simp [hxs]))
  · refine ⟨?_, ?_, ?_⟩
    · intro before' push' after hxs' hpush'
      rw [hxs] at hxs'
      rcases List.eq_nil_or_concat after with rfl | ⟨after, last, rfl⟩
      · rfl
      · -- The manifest would stand before the last request.
        have hbefore : before = before' ++ push' :: after := by
          have hsplit : before ++ [(push, reply)] = (before' ++ push' :: after) ++ [last] := by
            simpa using hxs'
          exact (List.append_inj' hsplit rfl).1
        exact absurd hpush' (hquiet push' (by simp [hbefore]))
    · intro before' push' reply' hxs' hpush'
      rw [hxs] at hxs'
      obtain ⟨rfl, hlast⟩ := List.append_inj' hxs' rfl
      cases hlast
      exact hover
    · refine hresult.trans ⟨fun htaken => ⟨before, push, reply, hxs, hpush, htaken⟩, ?_⟩
      rintro ⟨before', push', reply', hxs', -, htaken⟩
      rw [hxs] at hxs'
      obtain ⟨rfl, hlast⟩ := List.append_inj' hxs' rfl
      cases hlast
      exact htaken

end Storing
end Signet
