import Mathlib
import Signet.Proofs.Registry.Location

/-!
# Where addresses lead

An address leads to the host that its authority names, by its scheme. A location that is
resolved against an address leads where that address does, unless it has another scheme or an
authority of its own.

## Main definitions

* `Url.Origin`, `Url.origin` — the scheme and the host that an address leads to.
* `Url.lead` — where a location leads, seen from an address.
* `RemoteOptions.origin` — where a repository is found with given options.
-/
namespace Signet

namespace Url

/-- A scheme and a host with its port. -/
structure Origin where
  scheme : Text
  host : Text
deriving DecidableEq, Repr

/-- The port that a scheme implies, behind its colon. -/
def impliedPort (scheme : Text) : Text :=
  if scheme = "http" then ":80" else if scheme = "https" then ":443" else []

/-- The host that an authority names: without user information, in small letters, and without
the port that the scheme implies. Behind a backslash there is no authority any more. -/
def host (scheme authority : Text) : Text :=
  let authority : Text := authority.takeWhile fun c : CodePoint => c ≠ '\\'
  let named := (((authority.cutLast? '@').map Prod.snd).getD authority).lower
  if (impliedPort scheme).isSuffixOf named then
    named.take (named.length - (impliedPort scheme).length)
  else named

/-- Where an address leads. -/
def origin (address : Text) : Origin :=
  let parts := takeScheme [] (clean address)
  ⟨parts.1, host parts.1 (authorityOf parts.2)⟩

/-- Where a location leads, seen from an address: to a place of its own if it has another scheme
or an authority, and else where the address leads. -/
def lead (address location : Text) : Origin :=
  let parts := takeScheme (origin address).scheme (clean location)
  if parts.1 = (origin address).scheme ∧ authorityOf parts.2 = [] then origin address
  else ⟨parts.1, host parts.1 (authorityOf parts.2)⟩

theorem origin_of_parse {t : Text} {u : Url} (h : parse [] t = .ok u) :
    origin t = ⟨u.scheme, host u.scheme u.authority⟩ := by
  obtain ⟨hscheme, hauthority⟩ := parse_eq_ok h
  rw [hscheme, hauthority]
  rfl

/-- The scheme of an address is its own, or the one that is meant. -/
theorem takeScheme_eq_or (t : Text) :
    (∀ scheme, takeScheme scheme t = (scheme, t)) ∨
      ∃ parts, ∀ scheme, takeScheme scheme t = parts := by
  unfold takeScheme
  split
  · split
    · split
      · exact .inr ⟨_, fun _ => rfl⟩
      · exact .inl fun _ => rfl
    · exact .inl fun _ => rfl
  · exact .inl fun _ => rfl

/-- An address on the web leads where its scheme and its authority say. -/
theorem origin_web {name authority rest : Text} (hne : name ≠ [])
    (hname : ∀ c ∈ name, c.isAsciiLower = true)
    (hauthority : ∀ c ∈ authority, endsAuthority c = false)
    (hrest : ∀ c ∈ rest.head?, endsAuthority c = true) :
    origin (name ++ "://" ++ (authority ++ rest)) = ⟨name, host name (authority.filter keeps)⟩ := by
  rw [origin, authorityOf_web hne hname hauthority hrest, takeScheme_clean hne hname]

-- What looks like a host behind user information is none.
example : origin "https://evil.example\\@r.io/x" = ⟨"https", "evil.example"⟩ := by
  decide +kernel

/-- Behind the authority of a written address stands a mark that ends it, or nothing. -/
theorem exists_toText_eq (u : Url) :
    ∃ rest : Text, u.toText = u.scheme ++ "://" ++ (u.authority ++ rest) ∧
      ∀ c ∈ rest.head?, endsAuthority c = true := by
  have hmarks : endsAuthority '/' = true ∧ endsAuthority '?' = true ∧ endsAuthority '#' = true := by
    decide
  have hslash : ("/" : Text) = [CodePoint.ofChar '/'] := rfl
  have hquestion : ("?" : Text) = [CodePoint.ofChar '?'] := rfl
  have hhash : ("#" : Text) = [CodePoint.ofChar '#'] := rfl
  have hempty : ("" : Text) = [] := rfl
  rw [toText]
  generalize u.path ++ marked ";" u.params = path
  refine ⟨(if path.isEmpty || path.head? == some '/' then ("" : Text) else "/") ++ path ++
    marked "?" u.query ++ marked "#" u.fragment, by simp, ?_⟩
  rcases path with _ | ⟨c, path⟩
  · -- Without a path, the query or the fragment follows.
    rcases hquery : u.query with _ | ⟨c, query⟩
    · rcases hfragment : u.fragment with _ | ⟨c, fragment⟩
      · simp [marked, hempty]
      · simp [marked, hempty, hhash, hmarks]
    · simp [marked, hempty, hquestion, hmarks]
  · by_cases hc : c = '/'
    · simp [hc, hempty, hmarks]
    · simp [hc, hslash, hmarks]

/-- A written address leads where its parts say. -/
theorem origin_toText {u : Url} (hne : u.scheme ≠ [])
    (hscheme : ∀ c ∈ u.scheme, c.isAsciiLower = true)
    (hauthority : ∀ c ∈ u.authority, endsAuthority c = false ∧ keeps c = true) :
    origin u.toText = ⟨u.scheme, host u.scheme u.authority⟩ := by
  obtain ⟨rest, htext, hrest⟩ := u.exists_toText_eq
  have hfilter : u.authority.filter keeps = u.authority :=
    List.filter_eq_self.2 fun c hc => (hauthority c hc).2
  rw [htext, origin_web hne hscheme (fun c hc => (hauthority c hc).1) hrest, hfilter]

theorem mem_of_mem_takeScheme {scheme t : Text} {c : CodePoint} (h : c ∈ (takeScheme scheme t).2) :
    c ∈ t := by
  rw [takeScheme] at h
  split at h
  · rename_i name rest hcut
    split at h
    · split_ifs at h
      · rw [(Text.eq_of_cut?_eq_some hcut).1]
        simp [h]
      · exact h
    · exact h
  · exact h

/-- The characters of an authority that is read. -/
theorem of_mem_authority {scheme t : Text} {u : Url} (h : parse scheme t = .ok u) {c : CodePoint}
    (hc : c ∈ u.authority) : endsAuthority c = false ∧ keeps c = true := by
  rw [(parse_eq_ok h).2, authorityOf] at hc
  split_ifs at hc
  · have hrest := List.mem_of_mem_drop ((List.takeWhile_prefix _).subset hc)
    refine ⟨by simpa using List.mem_takeWhile_imp hc, ?_⟩
    exact (List.mem_filter.1 (mem_of_mem_takeScheme hrest)).2
  · cases hc

/-- A location with another scheme stands for itself; any other one gets the scheme of the base,
and its authority too if it has none. -/
theorem join_cases {base location url : Text} (hne : location ≠ [])
    (h : join base location = .ok url) :
    ∃ b u, parse [] base = .ok b ∧ parse b.scheme location = .ok u ∧
      ((u.scheme ≠ b.scheme ∧ url = location) ∨
        u.scheme = b.scheme ∧ ∃ v : Url, url = v.toText ∧ v.scheme = b.scheme ∧
          v.authority = if u.authority = [] then b.authority else u.authority) := by
  rw [join, if_neg (by simpa using hne)] at h
  cases hb : parse [] base with
  | error e =>
    rw [hb] at h
    cases h
  | ok b =>
    cases hu : parse b.scheme location with
    | error e =>
      rw [hb] at h
      dsimp only [Bind.bind, Except.bind] at h
      rw [hu] at h
      cases h
    | ok u =>
      rw [hb] at h
      dsimp only [Bind.bind, Except.bind, Pure.pure, Except.pure] at h
      rw [hu] at h
      dsimp only at h
      refine ⟨b, u, rfl, hu, ?_⟩
      by_cases hscheme : u.scheme = b.scheme
      · rw [if_neg (not_not.2 hscheme)] at h
        refine .inr ⟨hscheme, ?_⟩
        by_cases hauthority : u.authority = []
        · rw [if_neg (by simp [hauthority])] at h
          rw [if_pos hauthority]
          split at h
          · cases h
            exact ⟨_, rfl, rfl, rfl⟩
          · cases h
            exact ⟨_, rfl, hscheme, rfl⟩
        · rw [if_pos (by simp [hauthority])] at h
          cases h
          exact ⟨u, rfl, hscheme, (if_neg hauthority).symm⟩
      · rw [if_pos hscheme] at h
        cases h
        exact .inl ⟨hscheme, rfl⟩

/-- A location that is resolved leads where it says, seen from the address that it is resolved
against. -/
theorem origin_join {name rest location url : Text} (hne : name ≠ [])
    (hname : ∀ c ∈ name, c.isAsciiLower = true) (hlocation : location ≠ [])
    (h : join (name ++ "://" ++ rest) location = .ok url) :
    origin url = lead (name ++ "://" ++ rest) location := by
  obtain ⟨b, u, hb, hu, hcases⟩ := join_cases hlocation h
  have hbase := origin_of_parse hb
  obtain ⟨huscheme, huauthority⟩ := parse_eq_ok hu
  have hbscheme : b.scheme = name := (parse_web hne hname hb).1
  have hlead : lead (name ++ "://" ++ rest) location =
      if u.scheme = b.scheme ∧ u.authority = [] then ⟨b.scheme, host b.scheme b.authority⟩
      else ⟨u.scheme, host u.scheme u.authority⟩ := by
    rw [lead, hbase, ← huscheme, ← huauthority]
  rw [hlead]
  rcases hcases with ⟨hother, rfl⟩ | ⟨hsame, v, rfl, hvscheme, hvauthority⟩
  · rw [if_neg fun hboth => hother hboth.1, huscheme, huauthority]
    rcases takeScheme_eq_or (clean url) with hmeant | ⟨parts, hparts⟩
    · rw [huscheme, hmeant] at hother
      exact absurd rfl hother
    · rw [origin, hparts, hparts]
  · have hvmem : ∀ c ∈ v.authority, endsAuthority c = false ∧ keeps c = true := by
      intro c hc
      rw [hvauthority] at hc
      split_ifs at hc
      · exact of_mem_authority hb hc
      · exact of_mem_authority hu hc
    rw [origin_toText (by rwa [hvscheme, hbscheme]) (by rwa [hvscheme, hbscheme]) hvmem, hvscheme,
      hvauthority, hsame]
    by_cases hauthority : u.authority = [] <;> simp [hauthority]

end Url

/-! ## Where repositories are found -/

namespace RemoteOptions

/-- Where a repository is found: at its registry, by the scheme that the options choose. -/
def origin (o : RemoteOptions) (repository : Repository) : Url.Origin :=
  let scheme : Text := if o.insecure then "http" else "https"
  ⟨scheme, Url.host scheme (repository.registry.filter Url.keeps)⟩

/-- The address of anything in a repository leads to where the repository is found. -/
theorem origin_url (o : RemoteOptions) {repository : Repository} (h : repository.Parsed)
    (path : Text) : Url.origin (o.url repository path) = o.origin repository := by
  obtain ⟨name, t, hurl, rfl, hne, hlower⟩ := o.exists_url_eq repository path
  have hslash : ∀ c ∈ (('/' : CodePoint) :: t).head?, Url.endsAuthority c = true := by
    intro c hc
    obtain rfl : CodePoint.ofChar '/' = c := by simpa using hc
    decide
  rw [hurl, Url.origin_web hne hlower (fun c hc => Registry.endsAuthority_registry h hc) hslash]
  rfl

/-- What is resolved against the address of anything in a repository leads where the location
says. -/
theorem origin_join (o : RemoteOptions) {repository : Repository} {path location url : Text}
    (hne : location ≠ []) (h : Url.join (o.url repository path) location = .ok url) :
    Url.origin url = Url.lead (o.url repository path) location := by
  obtain ⟨name, t, hurl, -, hname, hlower⟩ := o.exists_url_eq repository path
  rw [hurl] at h ⊢
  exact Url.origin_join hname hlower hne h

end RemoteOptions
end Signet
