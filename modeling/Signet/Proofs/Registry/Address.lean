import Mathlib
import Signet.Proofs.Reference.Artifact
import Signet.Proofs.Reference.Repository
import Signet.Proofs.Text.Hex
import Signet.Registry.Basic
import Signet.Remote.Client

/-!
# What the addresses of the client name

The address of something in a parsed repository is taken apart to its registry, the
components of its path and what stands behind them. So a question about a manifest or a
blob is about the repository that it was made for, whatever the options of the client are.
-/
namespace Signet

open Grammar (IsComponentCharacter IsHostMark)

namespace Registry

/-- Host and path end with a mark of this kind. -/
def endsPath (c : CodePoint) : Bool := c = '?' || c = '#'

/-- The beginning of a text up to the first such mark. -/
def beforeMarks (t : Text) : Text := t.takeWhile fun c => !endsPath c

theorem beforeMarks_append {s : Text} (h : ∀ c ∈ s, endsPath c = false) (t : Text) :
    beforeMarks (s ++ t) = s ++ beforeMarks t :=
  List.takeWhile_append_of_pos fun c hc => by simp [h c hc]

theorem beforeMarks_eq_self {t : Text} (h : ∀ c ∈ t, endsPath c = false) : beforeMarks t = t :=
  List.takeWhile_eq_self_iff.2 fun c hc => by simp [h c hc]

theorem authorityAndPath_append (scheme rest : Text) (h : ('/' : CodePoint) ∉ scheme)
    (h' : (':' : CodePoint) ∉ scheme) :
    authorityAndPath (scheme ++ "://" ++ rest) = beforeMarks rest := by
  have hafter : authorityAndPath.afterAuthorityMark (scheme ++ "://" ++ rest) = rest := by
    induction scheme with
    | nil => rfl
    | cons c scheme ih =>
      have hc : c ≠ ':' := fun e => h' (by simp [e])
      have hrest := ih (fun e => h (by simp [e])) (fun e => h' (by simp [e]))
      have hstart : Text.startsWith (c :: (scheme ++ "://" ++ rest)) "://" = false := by
        have hmark : ("://" : Text) = (':' : CodePoint) :: "//" := rfl
        simp [Text.startsWith, hmark, List.isPrefixOf, Ne.symm hc]
      rw [List.cons_append, List.cons_append, authorityAndPath.afterAuthorityMark, hstart,
        if_neg (by simp), hrest]
  rw [authorityAndPath, hafter, beforeMarks]
  congr 1
  funext c
  simp [endsPath, Bool.not_or]

/-- The parts of an address that is given by a host, a path and a rest. -/
theorem target?_eq {scheme host path rest : Text} (hslash : ('/' : CodePoint) ∉ scheme)
    (hcolon : (':' : CodePoint) ∉ scheme) (hhost : ∀ c ∈ host, c ≠ '/' ∧ endsPath c = false)
    (hpath : ∀ c ∈ path, endsPath c = false) :
    target? (scheme ++ "://" ++ (host ++ "/v2/" ++ path ++ "/" ++ rest)) =
      some ⟨host, path.split '/' ++ (beforeMarks rest).split '/'⟩ := by
  have hkeep : ∀ c ∈ host ++ "/v2/" ++ path ++ "/", endsPath c = false := by
    intro c hc
    simp only [List.mem_append] at hc
    rcases hc with ((hc | hc) | hc) | hc
    · exact (hhost c hc).2
    · have hall : ∀ c ∈ ("/v2/" : Text), endsPath c = false := by decide
      exact hall c hc
    · exact hpath c hc
    · have hall : ∀ c ∈ ("/" : Text), endsPath c = false := by decide
      exact hall c hc
  have hshape (t : Text) : host ++ "/v2/" ++ path ++ "/" ++ t =
      host ++ ('/' : CodePoint) :: (("v2" : Text) ++ ('/' : CodePoint) ::
        (path ++ ('/' : CodePoint) :: t)) := by
    have hv2 : ("/v2/" : Text) = ('/' : CodePoint) :: (("v2" : Text) ++ [('/' : CodePoint)]) := rfl
    have hone : ("/" : Text) = [('/' : CodePoint)] := rfl
    simp [hv2, hone]
  have hcut : (host ++ ('/' : CodePoint) :: (("v2" : Text) ++ ('/' : CodePoint) ::
      (path ++ ('/' : CodePoint) :: beforeMarks rest))).cut? '/' =
        some (host, ("v2" : Text) ++ ('/' : CodePoint) ::
          (path ++ ('/' : CodePoint) :: beforeMarks rest)) :=
    Text.cut?_append_cons fun hc => (hhost _ hc).1 rfl
  have hsplit : (("v2" : Text) ++ ('/' : CodePoint) ::
      (path ++ ('/' : CodePoint) :: beforeMarks rest)).split '/' =
        ("v2" : Text) :: (path.split '/' ++ (beforeMarks rest).split '/') := by
    have hv2 : Text.split "v2" '/' = [("v2" : Text)] := rfl
    rw [Text.split_append_cons, Text.split_append_cons, hv2]
    rfl
  rw [target?, authorityAndPath_append scheme _ hslash hcolon,
    beforeMarks_append hkeep, hshape, hcut]
  simp only [hsplit, if_true]

/-- A question about something in a repository, given by its kind and a reference. -/
theorem query?_append {parts : List Text} (hparts : parts ≠ []) (kind reference : Text) :
    query? (parts ++ [kind, reference]) =
      if kind = "uploads" ∧ parts.getLast? = some "blobs" ∧ parts.dropLast ≠ [] then
        some (.upload (Text.join "/" parts.dropLast))
      else if kind = "blobs" then some (.blob (Text.join "/" parts) reference)
      else if kind = "referrers" then some (.referrers (Text.join "/" parts) reference)
      else if kind = "manifests" then some (.manifest (Text.join "/" parts) reference)
      else none := by
  obtain ⟨others, more, rfl⟩ := List.eq_nil_or_concat parts |>.resolve_left hparts
  simp [query?]

/-- Whatever follows, an address of uploads names uploads. -/
theorem query?_of_uploads {parts : List Text} (hparts : parts ≠ []) (last : Text) :
    query? (parts ++ [("blobs" : Text), "uploads", last]) =
      some (.upload (Text.join "/" parts)) := by
  have hshape : parts ++ [("blobs" : Text), "uploads", last] =
      (parts ++ [("blobs" : Text)]) ++ [("uploads" : Text), last] := by simp
  rw [hshape, query?_append (by simp), if_pos ⟨rfl, by simp, by simpa using hparts⟩,
    List.dropLast_concat]

end Registry

namespace Remote

open Registry (Target Query target? query?)

variable {o : RemoteOptions} {repository : Repository}

/-- What the address of something in a parsed repository names. -/
theorem target?_url (h : repository.Parsed) (path : Text) :
    target? (o.url repository path) =
      some ⟨repository.registry, repository.path.split '/' ++
        (Registry.beforeMarks path).split '/'⟩ := by
  have hhost : ∀ c ∈ repository.registry, c ≠ '/' ∧ Registry.endsPath c = false := by
    intro c hc
    have hne {d : Char} (hmark : ¬ IsHostMark d) (hline : (d : CodePoint) ≠ '\n') : c ≠ d := by
      rintro rfl
      exact h.not_mem_registry hmark hline hc
    refine ⟨hne (by unfold IsHostMark; decide) (by decide), ?_⟩
    simp only [Registry.endsPath, Bool.or_eq_false_iff, decide_eq_false_iff_not]
    exact ⟨hne (by unfold IsHostMark; decide) (by decide),
      hne (by unfold IsHostMark; decide) (by decide)⟩
  have hpath : ∀ c ∈ repository.path, Registry.endsPath c = false := by
    intro c hc
    have hne {d : Char} (hmark : ¬ IsComponentCharacter d) (hline : (d : CodePoint) ≠ '\n')
        (hslash : (d : CodePoint) ≠ '/') : c ≠ d := by
      rintro rfl
      exact h.not_mem_path hmark hline hslash hc
    simp only [Registry.endsPath, Bool.or_eq_false_iff, decide_eq_false_iff_not]
    exact ⟨hne (by unfold IsComponentCharacter; decide) (by decide) (by decide),
      hne (by unfold IsComponentCharacter; decide) (by decide) (by decide)⟩
  have hshape (scheme : Text) : scheme ++ "://" ++ repository.registry ++ "/v2/" ++
      repository.path ++ "/" ++ path =
        scheme ++ "://" ++ (repository.registry ++ "/v2/" ++ repository.path ++ "/" ++ path) := by
    simp [List.append_assoc]
  rw [RemoteOptions.url, hshape]
  split
  · exact Registry.target?_eq (by decide) (by decide) hhost hpath
  · exact Registry.target?_eq (by decide) (by decide) hhost hpath

/-- The path of a parsed repository has components. -/
theorem split_path_ne_nil (repository : Repository) : repository.path.split '/' ≠ [] :=
  Text.split_ne_nil _ _

theorem join_split_path (repository : Repository) :
    Text.join "/" (repository.path.split '/') = repository.path :=
  Text.join_split _ _

/-- A reference that stays whole in an address. -/
def Whole (reference : Text) : Prop :=
  ∀ c ∈ reference, c ≠ '/' ∧ Registry.endsPath c = false

instance (reference : Text) : Decidable (Whole reference) :=
  inferInstanceAs (Decidable (∀ c ∈ reference, c ≠ '/' ∧ Registry.endsPath c = false))

theorem split_whole {kind reference : Text} (hkind : Whole kind) (h : Whole reference) :
    (Registry.beforeMarks (kind ++ "/" ++ reference)).split '/' = [kind, reference] := by
  have hkeep : ∀ c ∈ kind ++ "/" ++ reference, Registry.endsPath c = false := by
    intro c hc
    simp only [List.mem_append] at hc
    rcases hc with (hc | hc) | hc
    · exact (hkind c hc).2
    · have hall : ∀ c ∈ ("/" : Text), Registry.endsPath c = false := by decide
      exact hall c hc
    · exact (h c hc).2
  have hone : kind ++ "/" ++ reference = kind ++ ('/' : CodePoint) :: reference := by
    have hslash : ("/" : Text) = [('/' : CodePoint)] := rfl
    simp [hslash]
  rw [Registry.beforeMarks_eq_self hkeep, hone, Text.split_append_cons,
    Text.split_of_not_mem fun hc => (hkind _ hc).1 rfl,
    Text.split_of_not_mem fun hc => (h _ hc).1 rfl]
  rfl

/-- The address of a manifest names the manifest. -/
theorem query?_manifest (h : repository.Parsed) {reference : Text} (hwhole : Whole reference) :
    ∃ t, target? (o.url repository ("manifests/" ++ reference)) = some t ∧
      t.host = repository.registry ∧
      query? t.segments = some (.manifest repository.path reference) := by
  have hkind : ("manifests/" : Text) ++ reference = "manifests" ++ "/" ++ reference := rfl
  refine ⟨_, target?_url h _, rfl, ?_⟩
  dsimp only
  rw [hkind, split_whole (by decide) hwhole, Registry.query?_append (split_path_ne_nil _),
    if_neg (by rintro ⟨hne, -⟩; exact absurd hne (by decide)), if_neg (by decide),
    if_neg (by decide), if_pos rfl, join_split_path]

/-- The address of a blob with a whole digest names the blob. -/
theorem query?_blob (h : repository.Parsed) {digest : Text} (hwhole : Whole digest) :
    ∃ t, target? (o.url repository ("blobs/" ++ digest)) = some t ∧
      t.host = repository.registry ∧
      query? t.segments = some (.blob repository.path digest) := by
  have hkind : ("blobs/" : Text) ++ digest = "blobs" ++ "/" ++ digest := rfl
  refine ⟨_, target?_url h _, rfl, ?_⟩
  dsimp only
  rw [hkind, split_whole (by decide) hwhole, Registry.query?_append (split_path_ne_nil _),
    if_neg (by rintro ⟨hne, -⟩; exact absurd hne (by decide)), if_pos rfl, join_split_path]

/-- The address of the referrers of a whole digest names them. -/
theorem query?_referrers (h : repository.Parsed) {digest : Text} (hwhole : Whole digest) :
    ∃ t, target? (o.url repository ("referrers/" ++ digest)) = some t ∧
      query? t.segments = some (.referrers repository.path digest) := by
  have hkind : ("referrers/" : Text) ++ digest = "referrers" ++ "/" ++ digest := rfl
  refine ⟨_, target?_url h _, ?_⟩
  dsimp only
  rw [hkind, split_whole (by decide) hwhole, Registry.query?_append (split_path_ne_nil _),
    if_neg (by rintro ⟨hne, -⟩; exact absurd hne (by decide)), if_neg (by decide), if_pos rfl,
    join_split_path]

/-- The address that starts uploads names uploads. -/
theorem query?_uploads (h : repository.Parsed) :
    ∃ t, target? (uploadsUrl o repository) = some t ∧ t.host = repository.registry ∧
      query? t.segments = some (.upload repository.path) := by
  have hsplit : (Registry.beforeMarks "blobs/uploads/").split '/' =
      [("blobs" : Text), "uploads", ""] := by decide
  refine ⟨_, target?_url h _, rfl, ?_⟩
  dsimp only
  rw [hsplit, Registry.query?_of_uploads (split_path_ne_nil _), join_split_path]

/-- The digest of content stays whole in an address. -/
theorem whole_sha256Digest (content : Bytes) : Whole (sha256Digest content) :=
  forall_mem_sha256Digest (by decide) (by decide) content

/-- The digits of a digest stay whole in an address. -/
theorem whole_hex {digest algorithm hex : Text} (h : Digest.Parts digest algorithm hex) :
    Whole hex := by
  intro c hc
  have hne {d : Char} (hd : Digest.isHexCharacter d = false) : c ≠ d := by
    rintro rfl
    exact h.not_mem_hex hd hc
  refine ⟨hne (by decide), ?_⟩
  simp only [Registry.endsPath, Bool.or_eq_false_iff, decide_eq_false_iff_not]
  exact ⟨hne (by decide), hne (by decide)⟩

theorem Whole.append {s t : Text} (hs : Whole s) (ht : Whole t) : Whole (s ++ t) :=
  fun c hc => (List.mem_append.1 hc).elim (hs c) (ht c)

variable {artifact : Artifact}

/-- The digest of a parsed artifact stays whole in an address. -/
theorem whole_digest (h : artifact.Parsed) : Whole artifact.digest := by
  obtain ⟨algorithm, hex, hparts⟩ := h.digest
  have halgorithm : Whole algorithm := hparts.forall_mem_algorithm (by decide)
  have hcolon : Whole [(':' : CodePoint)] := by decide
  have hshape : artifact.digest = algorithm ++ ([(':' : CodePoint)] ++ hex) := hparts.eq
  rw [hshape]
  exact halgorithm.append (hcolon.append (whole_hex hparts))

/-- A parsed artifact has a tag for every suffix, and it stays whole in an address. -/
theorem whole_tag (h : artifact.Parsed) {suffix tag : Text} (hsuffix : Whole suffix)
    (htag : artifact.tag? suffix = some tag) : Whole tag := by
  obtain ⟨algorithm, hex, hparts⟩ := h.digest
  have halgorithm : Whole algorithm := hparts.forall_mem_algorithm (by decide)
  have hhyphen : Whole "-" := by decide
  have hdot : Whole "." := by decide
  rw [Artifact.tag?_eq hparts, Option.some.injEq] at htag
  rw [← htag]
  exact (((halgorithm.append hhyphen).append (whole_hex hparts)).append hdot).append hsuffix

end Remote
end Signet
