import Mathlib
import Signet.Proofs.Reference.Repository
import Signet.Proofs.Text.CodePoint
import Signet.Reference.Artifact

/-!
# Parsed artifacts

The digest of an artifact that was parsed is an algorithm, a colon and digits, so it has a
tag for every suffix. The tag determines the digest and the suffix again.
-/
namespace Signet

namespace Digest

/-- A digest that is an algorithm, a colon and hexadecimal digits. -/
structure Parts (digest algorithm hex : Text) : Prop where
  cut : digest.cut? ':' = some (algorithm, hex)
  algorithm : algorithm ∈ [("sha256" : Text), "sha384", "sha512"]
  hex : ∀ c ∈ hex, isHexCharacter c = true

theorem parts_of_validate {digest : Text} (h : validate digest = .ok ()) :
    ∃ algorithm hex, Parts digest algorithm hex := by
  rw [validate] at h
  split at h
  · cases h
  rename_i algorithm hex hcut
  split at h
  · cases h
  rename_i length hlength
  split_ifs at h with hhex
  refine ⟨algorithm, hex, hcut, ?_, List.all_eq_true.1 hhex.2⟩
  unfold hexLength? at hlength
  split_ifs at hlength <;> simp_all

namespace Parts

variable {digest algorithm hex : Text}

theorem eq (h : Parts digest algorithm hex) : digest = algorithm ++ (':' : CodePoint) :: hex :=
  (Text.eq_of_cut?_eq_some h.cut).1

/-- A property of the names of algorithms holds of the algorithm. -/
theorem forall_mem_algorithm (h : Parts digest algorithm hex) {P : CodePoint → Prop}
    (hall : ∀ name ∈ [("sha256" : Text), "sha384", "sha512"], ∀ c ∈ name, P c) :
    ∀ c ∈ algorithm, P c := hall algorithm h.algorithm

/-- A digest is ASCII. -/
theorem val_of_mem (h : Parts digest algorithm hex) {c : CodePoint} (hc : c ∈ digest) :
    c.val < 0x80 := by
  rw [h.eq, List.mem_append, List.mem_cons] at hc
  rcases hc with hc | rfl | hc
  · have hname : ∀ c ∈ algorithm, c.val < 0x80 := h.forall_mem_algorithm (by decide)
    exact hname c hc
  · decide
  · have hdigit := h.hex c hc
    simp only [isHexCharacter, CodePoint.isAsciiDigit, Bool.or_eq_true, Bool.and_eq_true,
      decide_eq_true_eq] at hdigit
    omega

/-- A mark that is no hexadecimal digit is not among the digits. -/
theorem not_mem_hex (h : Parts digest algorithm hex) {c : CodePoint}
    (hc : isHexCharacter c = false) : c ∉ hex := by
  intro hmem
  rw [h.hex c hmem] at hc
  cases hc

end Parts

end Digest

namespace Artifact

/-- A parsed artifact has a valid digest and a parsed repository. -/
theorem parse_eq_ok {reference : Text} {artifact : Artifact} (h : parse reference = .ok artifact) :
    Digest.validate artifact.digest = .ok () ∧
      ∃ name, Repository.parse name = .ok artifact.repository := by
  rw [parse] at h
  split at h
  · cases h
  rename_i name digest _
  cases hvalid : Digest.validate digest with
  | error e =>
    rw [hvalid] at h
    cases h
  | ok u =>
    have hname {rest : Text} (h : (Repository.parse rest >>= fun repository =>
        pure (⟨repository, digest⟩ : Artifact)) = .ok artifact) :
        Digest.validate artifact.digest = .ok () ∧
          ∃ name, Repository.parse name = .ok artifact.repository := by
      cases hrepository : Repository.parse rest with
      | error e =>
        rw [hrepository] at h
        cases h
      | ok repository =>
        rw [hrepository] at h
        cases h
        exact ⟨hvalid, rest, hrepository⟩
    rw [hvalid] at h
    dsimp only [Bind.bind, Except.bind] at h
    split at h
    · split_ifs at h
      exact hname h
    · exact hname h

/-- What parsing checks of an artifact. -/
structure Parsed (artifact : Artifact) : Prop where
  repository : artifact.repository.Parsed
  digest : ∃ algorithm hex, Digest.Parts artifact.digest algorithm hex

theorem parsed_of_parse {reference : Text} {artifact : Artifact}
    (h : parse reference = .ok artifact) : artifact.Parsed := by
  obtain ⟨hdigest, name, hrepository⟩ := parse_eq_ok h
  exact ⟨Repository.parsed_of_parse hrepository, Digest.parts_of_validate hdigest⟩

theorem tag?_eq {artifact : Artifact} {algorithm hex : Text}
    (h : Digest.Parts artifact.digest algorithm hex) (suffix : Text) :
    artifact.tag? suffix = some (algorithm ++ "-" ++ hex ++ "." ++ suffix) := by
  simp [tag?, hex?, Artifact.algorithm, h.cut]

theorem Parsed.exists_tag {artifact : Artifact} (h : artifact.Parsed) (suffix : Text) :
    ∃ tag, artifact.tag? suffix = some tag := by
  obtain ⟨algorithm, hex, hparts⟩ := h.digest
  exact ⟨_, tag?_eq hparts suffix⟩

/-- A tag is no SHA-256 digest. -/
theorem Parsed.startsWith_tag {artifact : Artifact} (h : artifact.Parsed) {suffix tag : Text}
    (htag : artifact.tag? suffix = some tag) : tag.startsWith "sha256:" = false := by
  obtain ⟨algorithm, hex, hparts⟩ := h.digest
  rw [tag?_eq hparts, Option.some.injEq] at htag
  have hall : ∀ name ∈ [("sha256" : Text), "sha384", "sha512"], ∀ rest : Text,
      Text.startsWith (name ++ "-" ++ rest) "sha256:" = false := by
    intro name hname rest
    simp only [List.mem_cons, List.not_mem_nil, or_false] at hname
    rcases hname with rfl | rfl | rfl <;> rfl
  rw [← htag, List.append_assoc, List.append_assoc]
  exact hall algorithm hparts.algorithm _

/-- A tag determines the digest and the suffix. -/
theorem Parsed.tag?_injective {a b : Artifact} (hparsed : a.Parsed) (hparsed' : b.Parsed)
    {suffix suffix' : Text} (h : a.tag? suffix = b.tag? suffix') :
    a.digest = b.digest ∧ suffix = suffix' := by
  obtain ⟨algorithm, hex, ha⟩ := hparsed.digest
  obtain ⟨algorithm', hex', hb⟩ := hparsed'.digest
  have hhyphen {name : Text} (hname : name ∈ [("sha256" : Text), "sha384", "sha512"]) :
      ('-' : CodePoint) ∉ name := by
    have hall : ∀ name ∈ [("sha256" : Text), "sha384", "sha512"], ('-' : CodePoint) ∉ name := by
      decide
    exact hall name hname
  have hshape (name digits last : Text) : name ++ "-" ++ digits ++ "." ++ last =
      name ++ ('-' : CodePoint) :: (digits ++ ('.' : CodePoint) :: last) := by
    have hone : ("-" : Text) = [('-' : CodePoint)] := rfl
    have hdot : ("." : Text) = [('.' : CodePoint)] := rfl
    simp [hone, hdot]
  rw [tag?_eq ha, tag?_eq hb, Option.some.injEq, hshape, hshape] at h
  have hfirst := congrArg (Text.cut? · '-') h
  simp only [Text.cut?_append_cons (hhyphen ha.algorithm),
    Text.cut?_append_cons (hhyphen hb.algorithm), Option.some.injEq, Prod.mk.injEq] at hfirst
  obtain ⟨rfl, hrest⟩ := hfirst
  have hsecond := congrArg (Text.cut? · '.') hrest
  simp only [Text.cut?_append_cons (ha.not_mem_hex (by decide : Digest.isHexCharacter '.' = false)),
    Text.cut?_append_cons (hb.not_mem_hex (by decide : Digest.isHexCharacter '.' = false)),
    Option.some.injEq, Prod.mk.injEq] at hsecond
  obtain ⟨rfl, rfl⟩ := hsecond
  exact ⟨by rw [ha.eq, hb.eq], rfl⟩

/-- A digest is no tag: a tag has a hyphen. -/
theorem Parsed.digest_ne_tag {a b : Artifact} (hparsed : a.Parsed) (hparsed' : b.Parsed)
    {suffix tag : Text} (htag : b.tag? suffix = some tag) : a.digest ≠ tag := by
  obtain ⟨algorithm, hex, ha⟩ := hparsed.digest
  obtain ⟨algorithm', hex', hb⟩ := hparsed'.digest
  have halgorithm : ∀ c ∈ algorithm, c ≠ '-' := ha.forall_mem_algorithm (by decide)
  have hhyphen : ('-' : CodePoint) ∉ a.digest := by
    rw [ha.eq, List.mem_append, List.mem_cons]
    rintro (hc | hc | hc)
    · exact halgorithm _ hc rfl
    · exact absurd hc (by decide)
    · exact ha.not_mem_hex (by decide) hc
  rw [tag?_eq hb, Option.some.injEq] at htag
  rintro rfl
  refine hhyphen ?_
  rw [← htag]
  have hmark : ("-" : Text) = [('-' : CodePoint)] := rfl
  simp [hmark]

/-- The digest of an artifact that was parsed has a colon. -/
theorem hex?_ne_none {reference : Text} {artifact : Artifact}
    (h : parse reference = .ok artifact) : artifact.hex? ≠ none := by
  obtain ⟨algorithm, hex, hparts⟩ := (parsed_of_parse h).digest
  simp [hex?, hparts.cut]

end Artifact
end Signet
