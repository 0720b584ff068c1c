import Mathlib
import Signet.Proofs.Remote.Origin
import Signet.Proofs.Storage.Early
import Signet.Proofs.Storage.Legacy

/-!
# Requests that leave the registry

A store sends its credentials with every request. All requests are addressed to the registry of
the artifact or to that of the repository that is written to, except the content of a blob, which
is sent where the registry tells. A registry can so tell another host, and the credentials go
there.

## Main definitions

* `Storing.AtHome` — a request is addressed to a registry of the store.
* `Storing.Misled` — content is sent to a location that leads away from these registries.
-/
namespace Signet

/-- The request has a token or a password. -/
def Request.HasCredentials (q : Request) : Prop :=
  q.credentials ≠ none ∨ ∃ value, (("Authorization" : Text), value) ∈ q.headers

namespace Storing

open Attempt (Yields)
open Remote (Guided Follows uploadsUrl)

variable {remote : RemoteOptions} {o : StoreOptions} {q : StoreRequest} {xs : List Exchange}

/-- The repositories of a store: that of the artifact, and the one to use instead. -/
def Repositories (o : StoreOptions) (q : StoreRequest) (repository : Repository) : Prop :=
  repository = q.artifact.repository ∨ repository = target o q

/-- The place is that of the registry of a repository of the store. -/
def IsHome (remote : RemoteOptions) (o : StoreOptions) (q : StoreRequest) (place : Url.Origin) :
    Prop :=
  place = remote.origin q.artifact.repository ∨ place = remote.origin (target o q)

/-- The request is addressed to a registry of the store. -/
def AtHome (remote : RemoteOptions) (o : StoreOptions) (q : StoreRequest) (request : Request) :
    Prop :=
  IsHome remote o q (Url.origin request.url)

/-- The request sends content to the location that the answer right before tells, and that leads
away from the registries of the store. -/
def Misled (remote : RemoteOptions) (o : StoreOptions) (q : StoreRequest) (before : List Exchange)
    (request : Request) : Prop :=
  ∃ earlier start repository location, before = earlier ++ [start] ∧
    Follows remote (Repositories o q) start request repository location ∧
    ¬ IsHome remote o q (Url.lead (uploadsUrl remote repository) location)

theorem guided_storeWith {r : Except StoreFailure Unit}
    (h : Yields (storeWith remote o q) xs r) : Guided remote (Repositories o q) xs := by
  have hresolved {ys : List Exchange} {r : Except StoreFailure SignedEntity}
      (hys : Yields (resolve remote q.artifact (neededSuffixes (.routed o.format) q.kind)) ys r) :
      Guided remote (Repositories o q) ys :=
    Remote.guided_of_forall fun x hx => (fetches_resolve _ _ hys x hx).addresses (.inl rfl)
  have hprepared {format : Format} {entity : SignedEntity} {zs : List Exchange}
      {r : Except StoreFailure ReadyImage} (hzs : PrepareCourse remote q format entity zs r) :
      Guided remote (Repositories o q) zs := by
    rcases hzs.probed with rfl | ⟨reply, ys, rfl, hfetches⟩
    · exact .nil
    · exact .addressed (Remote.addresses_probeRequest (.inl rfl) _)
        (Remote.guided_of_forall fun y hy => (hfetches y hy).addresses (.inl rfl))
  rcases yields_storeWith.1 h with ⟨e, he, rfl⟩ | ⟨ys, ws, image, r', rfl, himage, hwrite, rfl⟩
  · rcases Attempt.yields_bind.1 he with ⟨e', he', -⟩ | ⟨ys, zs, entity, rfl, hresolve, hzs⟩
    · exact hresolved he'
    · exact (hresolved hresolve).append (hprepared (prepareCourse hzs))
  · have hrepository : Repositories o q image.repository := by
      rw [(placed_of_prepare himage).1, destination]
      split_ifs
      · exact .inr rfl
      · exact .inl rfl
    obtain ⟨ys, zs, entity, rfl, hresolve, hzs⟩ := Attempt.yields_bind_ok.1 himage
    exact ((hresolved hresolve).append (hprepared (prepareCourse hzs))).append
      (Remote.guided_writeImage hrepository hwrite)

/-- What is addressed to a repository of the store is addressed to its registry. -/
theorem atHome_of_addresses {request : Request}
    (hparsed : ∀ repository, Repositories o q repository → repository.Parsed)
    (h : Remote.Addresses remote (Repositories o q) request) : AtHome remote o q request := by
  obtain ⟨-, repository, path, hrepository, hurl⟩ := h
  rw [AtHome, hurl, RemoteOptions.origin_url remote (hparsed repository hrepository)]
  rcases hrepository with rfl | rfl
  · exact .inl rfl
  · exact .inr rfl

/-- Whatever the server does, every request of a store has the credentials of the options. It is
addressed to the registry of the artifact or to that of the repository that is used instead,
unless it sends content to a location that leads elsewhere, which the server told right before. -/
theorem leaves_registry_iff {σ : Type} (server : Session.Server σ) (state : σ)
    (remote : RemoteOptions) (o : StoreOptions) (q : StoreRequest) {reference : Text}
    (hreference : Artifact.parse reference = .ok q.artifact)
    (hoverride : ∀ repository ∈ o.repository, ∃ name, Repository.parse name = .ok repository)
    (before : List Exchange) (x : Exchange) (after : List Exchange)
    (hx : (runStore server remote o q state).exchanges = before ++ x :: after) :
    remote.Authorizes x.1 ∧ (¬ AtHome remote o q x.1 ↔ Misled remote o q before x.1) := by
  have hartifact := (Artifact.parsed_of_parse hreference).repository
  have hparsed : ∀ repository, Repositories o q repository → repository.Parsed := by
    rintro _ (rfl | rfl)
    · exact hartifact
    · cases hsome : o.repository with
      | none => rwa [target, hsome]
      | some repository =>
        obtain ⟨name, hname⟩ := hoverride repository hsome
        rw [target, hsome]
        exact Repository.parsed_of_parse hname
  have hguided : Guided remote (Repositories o q) (runStore server remote o q state).exchanges :=
    guided_storeWith (Attempt.yields_run server (storeWith remote o q) state)
  have hlead {start : Exchange} {repository : Repository} {location : Text}
      (hfollows : Follows remote (Repositories o q) start x.1 repository location) :
      Url.origin x.1.url = Url.lead (uploadsUrl remote repository) location :=
    remote.origin_join hfollows.location_ne hfollows.join_eq
  rcases hguided.at_position hx with haddresses | ⟨earlier, start, repository, location, rfl, h⟩
  · refine ⟨haddresses.1, iff_of_false (not_not.2 (atHome_of_addresses hparsed haddresses)) ?_⟩
    rintro ⟨earlier, start, repository, location, -, h, haway⟩
    rw [← hlead h] at haway
    exact haway (atHome_of_addresses hparsed haddresses)
  · refine ⟨h.authorizes, fun haway => ?_, ?_⟩
    · rw [AtHome, hlead h] at haway
      exact ⟨earlier, start, repository, location, rfl, h, haway⟩
    · rintro ⟨_, _, _, _, -, h, haway⟩ hhome
      rw [AtHome, hlead h] at hhome
      exact haway hhome

/-! ## A registry that tells another host -/

/-- A registry that tells to send content to another host. -/
def misleading : ScriptedRegistry :=
  { rules :=
    [{ method := some "POST"
       reply := .response ⟨202, [("Location", "https://evil.example/x")], []⟩ }] }

def withToken : RemoteOptions := { token := some ("t" : Text) }

abbrev misledRun : Session.Run ScriptedRegistry (Except StoreFailure Unit) :=
  runStore ScriptedRegistry.serve withToken { format := Format.legacy.identifier } sampleRequest
    misleading

theorem last_misledRun :
    misledRun.exchanges.getLast?.map (fun x => (x.1.url, x.1.headers.getLast?)) =
      some (("https://evil.example/x" : Text),
        some (("Authorization" : Text), ("Bearer t" : Text))) := by
  decide +kernel

theorem leaves_registry_iff_misledRun :
    Artifact.parse sampleReference = .ok sampleRequest.artifact ∧
    (∀ repository ∈ (none : Option Repository), ∃ name, Repository.parse name = .ok repository) ∧
    ∃ before x, misledRun.exchanges = before ++ [x] ∧ withToken.Authorizes x.1 ∧
      Misled withToken { format := Format.legacy.identifier } sampleRequest before x.1 := by
  obtain ⟨x, hx, hlast⟩ := Option.map_eq_some_iff.1 last_misledRun
  obtain ⟨before, hbefore⟩ := List.getLast?_eq_some_iff.1 hx
  have hurl : x.1.url = "https://evil.example/x" := (Prod.mk.inj hlast).1
  have haway : ¬ AtHome withToken { format := Format.legacy.identifier } sampleRequest x.1 := by
    rw [AtHome, hurl]
    have hplaces : Url.origin "https://evil.example/x" ≠
        withToken.origin sampleArtifact.repository := by decide +kernel
    exact fun hhome => hhome.elim hplaces hplaces
  have h := leaves_registry_iff ScriptedRegistry.serve misleading withToken
    { format := Format.legacy.identifier } sampleRequest parse_sampleReference (by simp) before x []
    hbefore
  exact ⟨parse_sampleReference, by simp, before, x, hbefore, h.1, h.2.1 haway⟩

/-- Not every request with credentials is addressed to a registry of the store. -/
theorem credentials_leave :
    ¬ ∀ (state : ScriptedRegistry) (remote : RemoteOptions) (o : StoreOptions) (q : StoreRequest)
      (reference : Text), Artifact.parse reference = .ok q.artifact →
      (∀ repository ∈ o.repository, ∃ name, Repository.parse name = .ok repository) →
      ∀ x ∈ (runStore ScriptedRegistry.serve remote o q state).exchanges,
        x.1.HasCredentials → AtHome remote o q x.1 := by
  intro h
  obtain ⟨x, hx, hlast⟩ := Option.map_eq_some_iff.1 last_misledRun
  obtain ⟨hurl, hheader⟩ := Prod.mk.inj hlast
  have hhome := h misleading withToken { format := Format.legacy.identifier } sampleRequest
    sampleReference parse_sampleReference (by simp) x (List.mem_of_getLast? hx)
    (.inr ⟨_, List.mem_of_getLast? hheader⟩)
  have hplaces : Url.origin "https://evil.example/x" ≠
      withToken.origin sampleArtifact.repository := by decide +kernel
  rw [AtHome, hurl] at hhome
  exact hhome.elim hplaces hplaces

end Storing
end Signet
