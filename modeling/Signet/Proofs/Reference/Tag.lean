import Mathlib
import Signet.Proofs.Reference.Printed
import Signet.Storage.Kind

/-!
# Tags of artifacts

The tag that keeps signed material is made of the algorithm and the digits of a digest and of a
suffix. All of its characters may stand in a tag, so its length alone decides whether it is one.
The digests of two of the algorithms are short enough, and their tags can be put into references
again; the tag of a SHA-512 digest is longer than the tags that references may have.
-/
namespace Signet

namespace Grammar

theorem isTagCharacter_of_isWord {c : CodePoint} (h : c.isWord = true) :
    isTagCharacter c = true := by
  simp [isTagCharacter, h]

/-- A tag is at most 128 characters of tags, of which the first is a word character. -/
theorem isTag_cons_iff {c : CodePoint} {rest : Text} (hc : c.isWord = true)
    (hrest : ∀ d ∈ rest, isTagCharacter d = true) :
    isTag (c :: rest) = true ↔ (c :: rest).length ≤ 128 := by
  have hall : rest.all isTagCharacter = true := List.all_eq_true.2 hrest
  simp only [isTag, hc, hall, Bool.true_and, Bool.and_true, decide_eq_true_eq, List.length_cons]
  omega

end Grammar

namespace Digest

open Grammar

variable {digest algorithm hex : Text}

theorem isWord_of_isHexCharacter {c : CodePoint} (h : isHexCharacter c = true) :
    c.isWord = true := by
  simp only [isHexCharacter, CodePoint.isAsciiDigit, Bool.or_eq_true, Bool.and_eq_true,
    decide_eq_true_eq] at h
  have hascii : c.val < 0x80 := by omega
  simp only [CodePoint.isWord, if_pos hascii, CodePoint.isAsciiLetter, CodePoint.isAsciiLower,
    CodePoint.isAsciiUpper, CodePoint.isAsciiDigit, Bool.or_eq_true, Bool.and_eq_true,
    decide_eq_true_eq]
  omega

/-- A valid digest has the digits that its algorithm needs. -/
theorem hexLength?_of_validate (h : validate digest = .ok ()) (hparts : Parts digest algorithm hex) :
    hexLength? algorithm = some hex.length := by
  rw [validate, hparts.cut] at h
  dsimp only at h
  split at h
  · cases h
  · rename_i length hlength
    split_ifs at h with hhex
    rw [hlength, hhex.1]

/-- The names of algorithms are words. -/
theorem Parts.exists_cons (h : Parts digest algorithm hex) :
    ∃ c rest, algorithm = c :: rest ∧ c.isWord = true ∧ ∀ d ∈ rest, isTagCharacter d = true := by
  have hnames : ∀ name ∈ [("sha256" : Text), "sha384", "sha512"],
      ∃ c rest, name = c :: rest ∧ c.isWord = true ∧ ∀ d ∈ rest, isTagCharacter d = true := by
    simp only [List.forall_mem_cons, List.not_mem_nil, false_implies, implies_true, and_true]
    exact ⟨⟨_, _, rfl, by decide, by decide +kernel⟩, ⟨_, _, rfl, by decide, by decide +kernel⟩,
      ⟨_, _, rfl, by decide, by decide +kernel⟩⟩
  exact hnames algorithm h.algorithm

end Digest

namespace Artifact

open Grammar

variable {artifact : Artifact} {suffix tag name digest : Text}

/-- A tag is made of characters of tags, and the first of them is a word character. -/
theorem exists_cons_of_tag? (hparsed : artifact.Parsed) (htag : artifact.tag? suffix = some tag)
    (hsuffix : ∀ c ∈ suffix, isTagCharacter c = true) :
    ∃ c rest, tag = c :: rest ∧ c.isWord = true ∧ ∀ d ∈ rest, isTagCharacter d = true := by
  obtain ⟨algorithm, hex, hparts⟩ := hparsed.digest
  obtain ⟨c, rest, halgorithm, hc, hrest⟩ := hparts.exists_cons
  have hhyphen : ∀ d ∈ ("-" : Text), isTagCharacter d = true := by decide +kernel
  have hdot : ∀ d ∈ ("." : Text), isTagCharacter d = true := by decide +kernel
  have hhex : ∀ d ∈ hex, isTagCharacter d = true := fun d hd =>
    isTagCharacter_of_isWord (Digest.isWord_of_isHexCharacter (hparts.hex d hd))
  rw [tag?_eq hparts, Option.some.injEq, halgorithm] at htag
  refine ⟨c, rest ++ "-" ++ hex ++ "." ++ suffix, htag.symm, hc, ?_⟩
  simp only [List.forall_mem_append]
  exact ⟨⟨⟨⟨hrest, hhyphen⟩, hhex⟩, hdot⟩, hsuffix⟩

/-- The length of a tag decides whether it is one. -/
theorem isTag_tag?_iff (hparsed : artifact.Parsed) (htag : artifact.tag? suffix = some tag)
    (hsuffix : ∀ c ∈ suffix, isTagCharacter c = true) : isTag tag = true ↔ tag.length ≤ 128 := by
  obtain ⟨c, rest, rfl, hc, hrest⟩ := exists_cons_of_tag? hparsed htag hsuffix
  exact isTag_cons_iff hc hrest

theorem isTagCharacter_of_mem_tag? (hparsed : artifact.Parsed)
    (htag : artifact.tag? suffix = some tag) (hsuffix : ∀ c ∈ suffix, isTagCharacter c = true) :
    ∀ c ∈ tag, isTagCharacter c = true := by
  obtain ⟨c, rest, rfl, hc, hrest⟩ := exists_cons_of_tag? hparsed htag hsuffix
  exact List.forall_mem_cons.2 ⟨isTagCharacter_of_isWord hc, hrest⟩

/-- The algorithm and the length of the suffix determine the length of a tag. -/
theorem length_tag? (hvalid : Digest.validate artifact.digest = .ok ())
    (htag : artifact.tag? suffix = some tag) :
    (artifact.algorithm = "sha256" ∧ tag.length = 72 + suffix.length) ∨
      (artifact.algorithm = "sha384" ∧ tag.length = 104 + suffix.length) ∨
      (artifact.algorithm = "sha512" ∧ tag.length = 136 + suffix.length) := by
  obtain ⟨algorithm, hex, hparts⟩ := Digest.parts_of_validate hvalid
  have hlength := Digest.hexLength?_of_validate hvalid hparts
  have halgorithm : artifact.algorithm = algorithm := by rw [Artifact.algorithm, hparts.cut]
  rw [tag?_eq hparts, Option.some.injEq] at htag
  have hmarks : ("-" : Text).length = 1 ∧ ("." : Text).length = 1 := ⟨rfl, rfl⟩
  have hcount := congrArg List.length htag
  simp only [List.length_append, hmarks] at hcount
  rw [halgorithm]
  unfold Digest.hexLength? at hlength
  split_ifs at hlength with h256 h384 h512
  · have hname : algorithm.length = 6 := by rw [h256]; rfl
    rw [Option.some.injEq] at hlength
    exact .inl ⟨h256, by omega⟩
  · have hname : algorithm.length = 6 := by rw [h384]; rfl
    rw [Option.some.injEq] at hlength
    exact .inr (.inl ⟨h384, by omega⟩)
  · have hname : algorithm.length = 6 := by rw [h512]; rfl
    rw [Option.some.injEq] at hlength
    exact .inr (.inr ⟨h512, by omega⟩)

/-! ## Tags in references -/

/-- A reference with a tag that is none is refused for its tag, unless it is cut elsewhere. -/
theorem parse_tagged_eq_error (hname : Repository.parse name = .ok artifact.repository)
    (hvalid : Digest.validate digest = .ok ()) (hat : ('@' : CodePoint) ∉ tag)
    (hcolon : (':' : CodePoint) ∉ tag) (hslash : ('/' : CodePoint) ∉ tag)
    (htag : isTag (line tag) = false) :
    parse (name ++ ":" ++ tag ++ "@" ++ digest) =
      .error (.invalidTag tag (name ++ ":" ++ tag ++ "@" ++ digest)) := by
  have hwhole : ('@' : CodePoint) ∉ name ++ ":" ++ tag := by
    rw [append_colon, List.mem_append, List.mem_cons, not_or, not_or]
    exact ⟨at_not_mem_of_parse hname, by decide, hat⟩
  have hsplit : splitTag (name ++ ":" ++ tag) = (name, some tag) :=
    splitTag_append_of_not_mem hcolon hslash name
  simp only [parse, append_at, Text.cut?_append_cons hwhole, hvalid, hsplit, htag]
  rfl

/-- The tags that keep the material of an artifact are tags exactly if its digest is no SHA-512
digest. Then a reference with the tag is parsed to the artifact again, by whatever name of its
repository; otherwise it is refused for the tag. -/
theorem tag_valid_iff {reference : Text} (h : parse reference = .ok artifact) (kind : Kind) :
    ∃ tag, artifact.tag? kind.suffix = some tag ∧
      (isTag tag = true ↔ artifact.algorithm ≠ "sha512") ∧
      ∀ name, Repository.parse name = .ok artifact.repository →
        parse (name ++ ":" ++ tag ++ "@" ++ artifact.digest) =
          if artifact.algorithm = "sha512" then
            .error (.invalidTag tag (name ++ ":" ++ tag ++ "@" ++ artifact.digest))
          else .ok artifact := by
  have hparsed := parsed_of_parse h
  have hvalid := (parse_eq_ok h).1
  obtain ⟨tag, htag⟩ := hparsed.exists_tag kind.suffix
  have hsuffix : ∀ c ∈ kind.suffix, isTagCharacter c = true := by
    cases kind <;> decide +kernel
  have hcharacters := isTagCharacter_of_mem_tag? hparsed htag hsuffix
  have hmark {c : CodePoint} (hc : isTagCharacter c = false) : c ∉ tag := by
    intro hmem
    rw [hcharacters c hmem] at hc
    cases hc
  have hline : line tag = tag := line_eq_self (hmark (by decide +kernel))
  have hiff : isTag tag = true ↔ artifact.algorithm ≠ "sha512" := by
    have hthree : kind.suffix.length = 3 := by cases kind <;> rfl
    rw [isTag_tag?_iff hparsed htag hsuffix]
    rcases length_tag? hvalid htag with ⟨halgorithm, hlength⟩ | ⟨halgorithm, hlength⟩ |
      ⟨halgorithm, hlength⟩
    · exact iff_of_true (by omega) (by rw [halgorithm]; decide)
    · exact iff_of_true (by omega) (by rw [halgorithm]; decide)
    · exact iff_of_false (by omega) (by simp [halgorithm])
  refine ⟨tag, htag, hiff, fun name hname => ?_⟩
  split_ifs with halgorithm
  · have hrefused : isTag (line tag) = false := by
      rw [hline, Bool.eq_false_iff]
      exact fun hok => hiff.1 hok halgorithm
    exact parse_tagged_eq_error hname hvalid (hmark isTagCharacter_at) (hmark isTagCharacter_colon)
      (hmark isTagCharacter_slash) hrefused
  · have haccepted : isTag (line tag) = true := by rw [hline, hiff.2 halgorithm]
    exact (Names.tagged hname haccepted hvalid).parse

/-- The longest tag that is one, in a reference. -/
theorem tag_valid_iff_sha384 :
    let digest : Text := ("sha384:" : Text) ++ List.replicate 96 ('0' : CodePoint)
    let artifact : Artifact := ⟨⟨"r.io", "a"⟩, digest⟩
    parse ("r.io/a@" ++ digest) = .ok artifact ∧ Repository.parse "r.io/a" = .ok ⟨"r.io", "a"⟩ ∧
      ∃ tag, artifact.tag? "sig" = some tag ∧ isTag tag = true ∧
        parse ("r.io/a" ++ ":" ++ tag ++ "@" ++ digest) = .ok artifact := by
  intro digest artifact
  have hparse : parse ("r.io/a@" ++ digest) = .ok artifact := by decide +kernel
  have hname : Repository.parse "r.io/a" = .ok artifact.repository := by decide +kernel
  have halgorithm : artifact.algorithm ≠ "sha512" := by decide +kernel
  obtain ⟨tag, htag, hvalid, hreference⟩ := tag_valid_iff hparse .signature
  exact ⟨hparse, hname, tag, htag, hvalid.2 halgorithm,
    (hreference _ hname).trans (if_neg halgorithm)⟩

/-! ## A tag that is too long -/

/-- Not every artifact has a tag that is one, since the tag of a SHA-512 digest has 139
characters. -/
theorem long_tag_invalid :
    ¬ ∀ (reference : Text) (artifact : Artifact) (kind : Kind) (tag : Text),
      parse reference = .ok artifact → artifact.tag? kind.suffix = some tag → isTag tag = true := by
  intro h
  have hdigest : ∀ digest : Text, digest = "sha512:" ++ List.replicate 128 ('0' : CodePoint) →
      parse ("r.io/a@" ++ digest) = .ok ⟨⟨"r.io", "a"⟩, digest⟩ ∧
        ∃ tag, (⟨⟨"r.io", "a"⟩, digest⟩ : Artifact).tag? "sig" = some tag ∧ isTag tag = false := by
    rintro _ rfl
    exact ⟨by decide +kernel, _, rfl, by decide +kernel⟩
  obtain ⟨hparse, tag, htag, hinvalid⟩ := hdigest _ rfl
  rw [h _ _ .signature tag hparse htag] at hinvalid
  cases hinvalid

end Artifact
end Signet
