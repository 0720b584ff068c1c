import Mathlib
import Signet.Proofs.Registry.Origin
import Signet.Proofs.Remote.Image

/-!
# Where requests are sent

Every request has the credentials of the options. All but one kind are addressed to something
in a repository: the content of a blob is sent to the location that the answer to the request
right before tells, wherever that leads.

## Main definitions

* `RemoteOptions.Authorizes` — a request has the credentials of the options.
* `Remote.Addresses` — a request is addressed to something in one of some repositories.
* `Remote.Guided` — exchanges that are addressed to repositories, except where content follows
  a location.
-/
namespace Signet

/-- The request has exactly the credentials of the options: user name and password as they are
configured, and the token as the only authorization among its headers. -/
def RemoteOptions.Authorizes (o : RemoteOptions) (q : Request) : Prop :=
  q.credentials = o.credentials? ∧
    ∀ value, (("Authorization" : Text), value) ∈ q.headers ↔
      ∃ token, o.bearer? = some token ∧ value = "Bearer " ++ token

namespace Remote

open Attempt (Yields)

variable {o : RemoteOptions} {repository : Repository} {repositories : Repository → Prop}
  {xs ys : List Exchange}

/-! ## Credentials -/

theorem authorizes_request {method : Method} {url : Text} {extra : List (Text × Text)}
    {digest : Option Text} {data : Option Bytes}
    (h : ∀ value, (("Authorization" : Text), value) ∉ extra) :
    o.Authorizes (o.request method url extra digest data) := by
  refine ⟨rfl, fun value => ?_⟩
  have hagent : ("Authorization" : Text) ≠ "User-Agent" := by decide
  have hheaders : (o.request method url extra digest data).headers = o.headers extra := rfl
  rw [hheaders, RemoteOptions.headers]
  cases o.bearer? with
  | none => simp [hagent, h value]
  | some token => simp [hagent, h value]

/-- A header of another name is no authorization. -/
theorem authorization_not_mem {name value : Text} (h : ("Authorization" : Text) ≠ name)
    (value' : Text) : (("Authorization" : Text), value') ∉ [(name, value)] := by
  simp [h]

/-- The request is addressed to something in one of the repositories, and it has the credentials
of the options. -/
def Addresses (o : RemoteOptions) (repositories : Repository → Prop) (q : Request) : Prop :=
  o.Authorizes q ∧ ∃ repository path, repositories repository ∧ q.url = o.url repository path

theorem addresses_request {method : Method} {path : Text} {extra : List (Text × Text)}
    {digest : Option Text} {data : Option Bytes} (hrepository : repositories repository)
    (h : ∀ value, (("Authorization" : Text), value) ∉ extra) :
    Addresses o repositories (o.request method (o.url repository path) extra digest data) :=
  ⟨authorizes_request h, repository, path, hrepository, rfl⟩

theorem Fetches.addresses {references : Text → Prop} {q : Request}
    (h : Fetches o repository references q) (hrepository : repositories repository) :
    Addresses o repositories q := by
  cases h with
  | manifest _ _ => exact addresses_request hrepository (authorization_not_mem (by decide))
  | blob _ => exact addresses_request hrepository (by simp)

theorem addresses_probeRequest (hrepository : repositories repository) (digest : Text) :
    Addresses o repositories
      (o.request .get (o.url repository ("referrers/" ++ digest))
        [("Accept", MediaType.imageIndex)]) :=
  addresses_request hrepository (authorization_not_mem (by decide))

/-! ## Exchanges that are guided -/

/-- The content is sent where the answer to the request that started the upload tells. -/
structure Follows (o : RemoteOptions) (repositories : Repository → Prop) (start : Exchange)
    (q : Request) (repository : Repository) (location : Text) : Prop where
  repository_mem : repositories repository
  start_eq : ∃ p, start = (startRequest o repository, .received p) ∧ p.status = 202 ∧
    p.header? "Location" = some location
  location_ne : location ≠ []
  join_eq : Url.join (uploadsUrl o repository) location = .ok q.url
  content_eq : ∃ content, q = contentRequest o q.url content

/-- Exchanges whose requests are addressed to repositories, or send content where the answer right
before tells. -/
inductive Guided (o : RemoteOptions) (repositories : Repository → Prop) : List Exchange → Prop where
  | nil : Guided o repositories []
  | addressed {x : Exchange} {xs : List Exchange} (hx : Addresses o repositories x.1)
    (h : Guided o repositories xs) : Guided o repositories (x :: xs)
  | followed {start x : Exchange} {xs : List Exchange} {repository : Repository} {location : Text}
    (hx : Follows o repositories start x.1 repository location) (h : Guided o repositories xs) :
    Guided o repositories (start :: x :: xs)

theorem Guided.append (h : Guided o repositories xs) (h' : Guided o repositories ys) :
    Guided o repositories (xs ++ ys) := by
  induction h with
  | nil => exact h'
  | addressed hx _ ih => exact .addressed hx ih
  | followed hx _ ih => exact .followed hx ih

theorem guided_of_forall (h : ∀ x ∈ xs, Addresses o repositories x.1) :
    Guided o repositories xs := by
  induction xs with
  | nil => exact .nil
  | cons x xs ih =>
    exact .addressed (h x List.mem_cons_self) (ih fun y hy => h y (List.mem_cons_of_mem _ hy))

theorem Follows.addresses_start {start : Exchange} {q : Request} {location : Text}
    (h : Follows o repositories start q repository location) :
    Addresses o repositories start.1 := by
  obtain ⟨p, rfl, -, -⟩ := h.start_eq
  exact addresses_request h.repository_mem (by simp)

theorem Follows.authorizes {start : Exchange} {q : Request} {location : Text}
    (h : Follows o repositories start q repository location) : o.Authorizes q := by
  obtain ⟨content, hq⟩ := h.content_eq
  rw [hq]
  exact authorizes_request (authorization_not_mem (by decide))

/-- Every request is addressed to a repository, or it sends content where the answer right before
tells; and it has the credentials in both cases. -/
theorem Guided.at_position (h : Guided o repositories xs) {before after : List Exchange}
    {x : Exchange} (hxs : xs = before ++ x :: after) :
    Addresses o repositories x.1 ∨ ∃ earlier start repository location,
      before = earlier ++ [start] ∧ Follows o repositories start x.1 repository location := by
  induction h generalizing before with
  | nil => simp at hxs
  | addressed hx _ ih =>
    cases before with
    | nil =>
      cases hxs
      exact .inl hx
    | cons y before =>
      obtain ⟨-, hrest⟩ := List.cons.inj hxs
      rcases ih hrest with hx | ⟨earlier, start, repository, location, rfl, hx⟩
      · exact .inl hx
      · exact .inr ⟨y :: earlier, start, repository, location, rfl, hx⟩
  | @followed start z xs repository location hz _ ih =>
    rcases before with _ | ⟨y, _ | ⟨y', before⟩⟩
    · cases hxs
      exact .inl hz.addresses_start
    · obtain ⟨rfl, hrest⟩ := List.cons.inj hxs
      cases hrest
      exact .inr ⟨[], start, repository, location, rfl, hz⟩
    · obtain ⟨-, hrest⟩ := List.cons.inj hxs
      obtain ⟨-, hrest⟩ := List.cons.inj hrest
      rcases ih hrest with hx | ⟨earlier, start', repository', location', rfl, hx⟩
      · exact .inl hx
      · exact .inr ⟨y :: y' :: earlier, start', repository', location', rfl, hx⟩

/-! ## Writing is guided -/

theorem guided_uploadBlob (hrepository : repositories repository) {content : Bytes}
    {r : Except RemoteFailure Text} (h : Yields (uploadBlob o repository content) xs r) :
    Guided o repositories xs := by
  have hpresence (reply : Reply) : Addresses o repositories
      (blobRequest o .head repository (sha256Digest content), reply).1 :=
    addresses_request hrepository (by simp)
  cases uploadCourse h with
  | present _ | untold _ => exact .addressed (hpresence _) .nil
  | notStarted _ _ =>
    exact .addressed (hpresence _) (.addressed (addresses_request hrepository (by simp)) .nil)
  | @sent p start url reply _ hstart =>
    obtain ⟨location, hheader, hstatus, hne, hjoin⟩ := readLocation_eq_ok_iff.1 hstart
    exact .addressed (hpresence _) (.followed
      ⟨hrepository, ⟨start, rfl, hstatus, hheader⟩, hne, hjoin, content, rfl⟩ .nil)

theorem guided_uploadLayers (hrepository : repositories repository) {layers : List Layer}
    {r : Except RemoteFailure Unit} (h : Yields (uploadLayers o repository layers) xs r) :
    Guided o repositories xs := by
  induction layers generalizing xs with
  | nil =>
    obtain ⟨rfl, -⟩ := h
    exact .nil
  | cons layer rest ih =>
    rcases Attempt.yields_bind.1 h with ⟨e, he, -⟩ | ⟨ys, zs, _, rfl, hfirst, hrest⟩
    · exact guided_uploadBlob hrepository he
    · exact (guided_uploadBlob hrepository hfirst).append (ih hrest)

theorem guided_uploadParts (hrepository : repositories repository) {config : Bytes}
    {layers : List Layer} {r : Except RemoteFailure Unit}
    (h : Yields (uploadParts o repository config layers) xs r) : Guided o repositories xs := by
  rcases Attempt.yields_bind.1 h with ⟨e, he, -⟩ | ⟨ys, zs, _, rfl, hconfig, hlayers⟩
  · exact guided_uploadBlob hrepository he
  · exact (guided_uploadBlob hrepository hconfig).append (guided_uploadLayers hrepository hlayers)

theorem guided_writeImage (hrepository : repositories repository) {layers : List Layer}
    {placement : Placement} {r : Except RemoteFailure Text}
    (h : Yields (writeImage o repository layers placement) xs r) : Guided o repositories xs := by
  obtain ⟨config, -, hcourse⟩ := writeCourse h
  cases hcourse with
  | notUploaded hupload => exact guided_uploadParts hrepository hupload
  | unwritable hupload _ => exact guided_uploadParts hrepository hupload
  | pushed hupload _ =>
    exact (guided_uploadParts hrepository hupload).append
      (.addressed (addresses_request hrepository (authorization_not_mem (by decide))) .nil)

end Remote
end Signet
