import Mathlib
import Signet.Proofs.Reference.Artifact
import Signet.Proofs.Reference.Grammar

/-!
# Printed references

A colon opens a port, a tag or the digits of a digest, or stands in a bracketed address. An
accepted name has none behind its last slash, an accepted tag has none at all, and neither has
an at sign. So the last colon and the first at sign of a reference take it apart as it was put
together, and what was parsed is read again from its printed form.
-/
namespace Signet

namespace Grammar

/-- The characters of a tag. -/
theorem isTagCharacter_of_isTag {t : Text} (h : isTag t = true) :
    ∀ c ∈ t, isTagCharacter c = true := by
  cases t with
  | nil => cases h
  | cons d rest =>
    simp only [isTag, Bool.and_eq_true, List.all_eq_true] at h
    intro c hc
    rcases List.mem_cons.1 hc with rfl | hc
    · simp [isTagCharacter, h.1.1]
    · exact h.2 c hc

/-- A mark that is no character of tags is not in a tag, which is looked at as one line. -/
theorem not_mem_of_isTag {tag : Text} {c : CodePoint} (h : isTag (line tag) = true)
    (hmark : isTagCharacter c = false) (hfeed : c ≠ '\n') : c ∉ tag := by
  intro hc
  have hline : c ∈ line tag := (mem_line hc).resolve_right hfeed
  rw [isTagCharacter_of_isTag h c hline] at hmark
  cases hmark

theorem isTagCharacter_colon : isTagCharacter ':' = false := by decide +kernel

theorem isTagCharacter_slash : isTagCharacter '/' = false := by decide +kernel

theorem isTagCharacter_at : isTagCharacter '@' = false := by decide +kernel

end Grammar

namespace Repository

open Grammar

variable {name : Text} {r : Repository}

/-! ## Names -/

/-- What a name designates has a registry that looks like a host. -/
theorem Designates.looksLikeHost (h : Designates name r) : LooksLikeHost r.registry := by
  cases h with
  | named _ hhost _ => exact hhost
  | hub _ | unnamed _ _ | single _ => exact looksLikeHost_defaultRegistry

/-- On the hub, a path has at least two components. -/
theorem Designates.slash_mem_path (h : Designates name r) (hhub : r.registry = defaultRegistry) :
    ('/' : CodePoint) ∈ r.path := by
  cases h with
  | named _ _ hpath => exact hpath hhub
  | hub _ | unnamed _ _ | single _ =>
    rw [append_slash]
    exact List.mem_append_right _ List.mem_cons_self

/-- The printed form names the registry, so it is read on the first of the ways. -/
theorem Designates.toText (h : Designates name r) (hparsed : r.Parsed) :
    Designates r.toText r :=
  .named hparsed.slash_not_mem_registry h.looksLikeHost h.slash_mem_path

theorem toText_ne_nil (r : Repository) : r.toText ≠ [] := by
  rw [Repository.toText, append_slash]
  exact List.append_ne_nil_of_right_ne_nil _ (List.cons_ne_nil _ _)

/-- A parsed repository is read from its printed form. -/
theorem parse_toText (h : parse name = .ok r) : parse r.toText = .ok r := by
  obtain ⟨-, hname, hparsed⟩ := parse_eq_ok_iff.1 h
  exact parse_eq_ok_iff.2 ⟨r.toText_ne_nil, hname.toText hparsed, hparsed⟩

/-- A colon of a text whose last part has none stands before that part. -/
theorem slash_mem_of_colon {first last before after : Text}
    (h : first ++ CodePoint.ofChar '/' :: last = before ++ CodePoint.ofChar ':' :: after)
    (hlast : (':' : CodePoint) ∉ last) : ('/' : CodePoint) ∈ after := by
  rcases List.append_eq_append_iff.1 h with hcase | hcase
  · -- The colon would be the slash itself, or a character of the last part.
    obtain ⟨middle, -, heq⟩ := hcase
    cases middle with
    | nil => exact absurd (List.cons.inj heq).1 (by decide)
    | cons c middle =>
      rw [List.cons_append] at heq
      rw [(List.cons.inj heq).2] at hlast
      simp at hlast
  · obtain ⟨middle, -, heq⟩ := hcase
    cases middle with
    | nil => exact absurd (List.cons.inj heq).1 (by decide)
    | cons c middle =>
      rw [List.cons_append] at heq
      rw [(List.cons.inj heq).2]
      simp

/-- No colon of an accepted name stands behind its last slash. -/
theorem Designates.slash_mem_of_colon (h : Designates name r) (hparsed : r.Parsed)
    {before after : Text} (hname : name = before ++ CodePoint.ofChar ':' :: after) :
    ('/' : CodePoint) ∈ after := by
  have hcolon := hparsed.colon_not_mem_path
  have hmem : (':' : CodePoint) ∈ name := by simp [hname]
  cases h with
  | @named registry path _ _ _ =>
    rw [append_slash] at hname
    exact Repository.slash_mem_of_colon hname hcolon
  | @hub path _ =>
    rw [append_slash] at hname
    exact Repository.slash_mem_of_colon hname fun hpath => hcolon (List.mem_append_right _ hpath)
  | unnamed _ _ => exact absurd hmem hcolon
  | single _ => exact absurd (List.mem_append_right _ hmem) hcolon

/-- An accepted name has no at sign. -/
theorem Designates.at_not_mem (h : Designates name r) (hparsed : r.Parsed) :
    ('@' : CodePoint) ∉ name := by
  intro hmem
  rcases h.mem_name hmem with hc | hc | hc
  · exact hparsed.not_mem_registry (by unfold IsHostMark; decide) (by decide) hc
  · exact absurd hc (by decide)
  · exact hparsed.not_mem_path (by unfold IsComponentCharacter; decide) (by decide) (by decide) hc

end Repository

namespace Artifact

open Grammar

variable {name tag digest reference reference' : Text} {r : Repository} {artifact : Artifact}

/-! ## Tags -/

theorem append_colon (s t : Text) : s ++ ":" ++ t = s ++ CodePoint.ofChar ':' :: t :=
  Text.append_mark rfl s t

theorem append_at (s t : Text) : s ++ "@" ++ t = s ++ CodePoint.ofChar '@' :: t :=
  Text.append_mark rfl s t

/-- An accepted name has no tag. -/
theorem splitTag_eq_none (h : Repository.parse name = .ok r) : splitTag name = (name, none) := by
  obtain ⟨-, hname, hparsed⟩ := Repository.parse_eq_ok_iff.1 h
  unfold splitTag
  split
  · rename_i before after hcut
    have hslash := hname.slash_mem_of_colon hparsed (Text.eq_of_cutLast?_eq_some hcut)
    rw [if_pos hslash]
  · rfl

/-- Behind any name, a tag without colons and slashes is split off. -/
theorem splitTag_append_of_not_mem (hcolon : (':' : CodePoint) ∉ tag)
    (hslash : ('/' : CodePoint) ∉ tag) (name : Text) :
    splitTag (name ++ ":" ++ tag) = (name, some tag) := by
  simp only [splitTag, append_colon, Text.cutLast?_append_cons name hcolon, if_neg hslash]

/-- Behind any name, an accepted tag is split off. -/
theorem splitTag_append (h : isTag (line tag) = true) (name : Text) :
    splitTag (name ++ ":" ++ tag) = (name, some tag) :=
  splitTag_append_of_not_mem (not_mem_of_isTag h isTagCharacter_colon (by decide))
    (not_mem_of_isTag h isTagCharacter_slash (by decide)) name

theorem splitTag_fst {whole : Text} (h : (splitTag whole).2 = none) :
    (splitTag whole).1 = whole := by
  unfold splitTag at h ⊢
  split at h
  · rename_i before after _
    by_cases hslash : ('/' : CodePoint) ∈ after
    · rw [if_pos hslash]
    · rw [if_neg hslash] at h
      cases h
  · rfl

/-- A tag and the name before it are put together again. -/
theorem eq_of_splitTag {whole : Text} (h : (splitTag whole).2 = some tag) :
    whole = (splitTag whole).1 ++ ":" ++ tag := by
  unfold splitTag at h ⊢
  split at h
  · rename_i before after hcut
    by_cases hslash : ('/' : CodePoint) ∈ after
    · rw [if_pos hslash] at h
      cases h
    · rw [if_neg hslash] at h
      obtain rfl : after = tag := Option.some.inj h
      rw [if_neg hslash, append_colon]
      exact Text.eq_of_cutLast?_eq_some hcut
  · cases h

/-! ## References -/

/-- What a reference names: a repository by an accepted name, and a valid digest. An accepted tag
may stand in between. -/
inductive Names : Text → Artifact → Prop
  | untagged {name digest : Text} {r : Repository} (hname : Repository.parse name = .ok r)
    (hdigest : Digest.validate digest = .ok ()) : Names (name ++ "@" ++ digest) ⟨r, digest⟩
  | tagged {name tag digest : Text} {r : Repository} (hname : Repository.parse name = .ok r)
    (htag : isTag (line tag) = true) (hdigest : Digest.validate digest = .ok ()) :
    Names (name ++ ":" ++ tag ++ "@" ++ digest) ⟨r, digest⟩

theorem at_not_mem_of_parse (h : Repository.parse name = .ok r) : ('@' : CodePoint) ∉ name := by
  obtain ⟨-, hname, hparsed⟩ := Repository.parse_eq_ok_iff.1 h
  exact hname.at_not_mem hparsed

/-- A reference is parsed to what it names. -/
theorem Names.parse (h : Names reference artifact) : parse reference = .ok artifact := by
  cases h with
  | @untagged name digest r hname hdigest =>
    simp only [Artifact.parse, append_at, Text.cut?_append_cons (at_not_mem_of_parse hname), hdigest,
      splitTag_eq_none hname, hname]
    rfl
  | @tagged name tag digest r hname htag hdigest =>
    have hat : ('@' : CodePoint) ∉ name ++ ":" ++ tag := by
      rw [append_colon, List.mem_append, List.mem_cons, not_or, not_or]
      exact ⟨at_not_mem_of_parse hname, by decide,
        not_mem_of_isTag htag isTagCharacter_at (by decide)⟩
    simp only [Artifact.parse, append_at, Text.cut?_append_cons hat, hdigest, splitTag_append htag,
      htag, hname]
    rfl

/-- A name that is parsed behind the checks names its artifact. -/
theorem exists_parse_of_bind (h : (Repository.parse name >>= fun repository =>
      pure (⟨repository, digest⟩ : Artifact)) = .ok artifact) :
    ∃ r, Repository.parse name = .ok r ∧ artifact = ⟨r, digest⟩ := by
  cases hname : Repository.parse name with
  | error e =>
    rw [hname] at h
    cases h
  | ok r =>
    rw [hname] at h
    cases h
    exact ⟨r, rfl, rfl⟩

/-- A parsed reference names its artifact. -/
theorem names_of_parse (h : parse reference = .ok artifact) : Names reference artifact := by
  rw [parse] at h
  split at h
  · cases h
  rename_i whole digest hcut
  obtain ⟨hreference, -⟩ := Text.eq_of_cut?_eq_some hcut
  rw [hreference, ← append_at]
  cases hdigest : Digest.validate digest with
  | error e =>
    rw [hdigest] at h
    cases h
  | ok u =>
    rw [hdigest] at h
    dsimp only [Bind.bind, Except.bind] at h
    split at h
    · rename_i tag hsplit
      split_ifs at h with htag
      obtain ⟨r, hname, rfl⟩ := exists_parse_of_bind h
      rw [eq_of_splitTag hsplit]
      exact .tagged hname (by simpa using htag) hdigest
    · rename_i hsplit
      obtain ⟨r, hname, rfl⟩ := exists_parse_of_bind h
      rw [splitTag_fst hsplit] at hname
      exact .untagged hname hdigest

/-- Parsing gives exactly what a reference names. -/
theorem parse_eq_ok_iff : parse reference = .ok artifact ↔ Names reference artifact :=
  ⟨names_of_parse, Names.parse⟩

/-- The printed form is a reference without a tag. -/
theorem parse_toText (h : parse reference = .ok artifact) :
    parse artifact.toText = .ok artifact := by
  obtain ⟨hdigest, name, hname⟩ := parse_eq_ok h
  exact (Names.untagged (Repository.parse_toText hname) hdigest).parse

theorem toText_injective (h : parse reference = .ok artifact) {other : Artifact}
    (h' : parse reference' = .ok other) (htext : artifact.toText = other.toText) :
    artifact = other := by
  have heq : Except.ok artifact = Except.ok other :=
    (parse_toText h).symm.trans ((congrArg parse htext).trans (parse_toText h'))
  exact Except.ok.inj heq

/-- Parsing is undone by printing: a printed artifact and its printed repository are parsed to
themselves, so two parsed artifacts are the same exactly if they print the same. What is parsed is
an accepted name and a valid digest, with an accepted tag in between or without one, and the tag
makes no difference. -/
theorem parse_printed :
    (∀ s d, parse s = .ok d → parse d.toText = .ok d ∧
      Repository.parse d.repository.toText = .ok d.repository) ∧
    (∀ s s' d d', parse s = .ok d → parse s' = .ok d' → (d = d' ↔ d.toText = d'.toText)) ∧
    (∀ name r tag digest, Repository.parse name = .ok r → isTag (line tag) = true →
      Digest.validate digest = .ok () →
        parse (name ++ ":" ++ tag ++ "@" ++ digest) = .ok ⟨r, digest⟩ ∧
        parse (name ++ "@" ++ digest) = .ok ⟨r, digest⟩) ∧
    (∀ s d, parse s = .ok d → ∃ name, Repository.parse name = .ok d.repository ∧
      Digest.validate d.digest = .ok () ∧ (s = name ++ "@" ++ d.digest ∨
        ∃ tag, isTag (line tag) = true ∧ s = name ++ ":" ++ tag ++ "@" ++ d.digest)) := by
  refine ⟨?printed, ?same, ?tagged, ?converse⟩
  case printed =>
    intro s d h
    obtain ⟨-, name, hname⟩ := parse_eq_ok h
    exact ⟨parse_toText h, Repository.parse_toText hname⟩
  case same =>
    intro s s' d d' h h'
    exact ⟨congrArg toText, toText_injective h h'⟩
  case tagged =>
    intro name r tag digest hname htag hdigest
    exact ⟨(Names.tagged hname htag hdigest).parse, (Names.untagged hname hdigest).parse⟩
  case converse =>
    intro s d h
    cases parse_eq_ok_iff.1 h with
    | untagged hname hdigest => exact ⟨_, hname, hdigest, .inl rfl⟩
    | tagged hname htag hdigest => exact ⟨_, hname, hdigest, .inr ⟨_, htag, rfl⟩⟩

/-- The hub and its common namespace are filled in, and then printed. -/
theorem parse_printed_hub :
    let digest : Text := ("sha256:" : Text) ++ List.replicate 64 ('0' : CodePoint)
    let d : Artifact := ⟨⟨"index.docker.io", "library/app"⟩, digest⟩
    parse ("app" ++ ":" ++ "v1" ++ "@" ++ digest) = .ok d ∧
      d.toText = ("index.docker.io/library/app@" : Text) ++ digest ∧
      parse d.toText = .ok d := by
  intro digest d
  have hname : Repository.parse "app" = .ok d.repository := by decide +kernel
  have htag : isTag (line "v1") = true := by decide +kernel
  have hdigest : Digest.validate digest = .ok () := by decide +kernel
  have hparse := (parse_printed.2.2.1 _ _ _ _ hname htag hdigest).1
  exact ⟨hparse, rfl, (parse_printed.1 _ _ hparse).1⟩

end Artifact
end Signet
