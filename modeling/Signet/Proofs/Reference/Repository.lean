import Mathlib
import Signet.Proofs.Text.CodePoint
import Signet.Reference.Repository

/-!
# Parsed repositories

The grammar of repositories keeps the marks of addresses out of them: a registry has no
slash, a path is made of components that start with a word, and neither has a mark that
ends a path. A line feed may stand at the end of each part, since it is not looked at.
-/
namespace Signet

namespace Grammar

theorem mem_line {t : Text} {c : CodePoint} (h : c ∈ t) : c ∈ line t ∨ c = '\n' := by
  induction t using line.induct with
  | case1 => cases h
  | case2 => exact .inr (List.mem_singleton.1 h)
  | case3 d hd =>
    rw [List.mem_singleton] at h
    subst h
    exact .inl (by simp [line, hd])
  | case4 d e rest ih =>
    rw [line]
    rcases List.mem_cons.1 h with rfl | h
    · exact .inl (by simp)
    · exact (ih h).imp (List.mem_cons_of_mem _) id

theorem mem_of_mem_line {t : Text} {c : CodePoint} (h : c ∈ line t) : c ∈ t := by
  induction t using line.induct with
  | case1 => exact h
  | case2 => cases h
  | case3 d hd => rwa [line, if_neg hd] at h
  | case4 d e rest ih =>
    rw [line] at h
    rcases List.mem_cons.1 h with rfl | h
    · exact List.mem_cons_self
    · exact List.mem_cons_of_mem _ (ih h)

/-- The characters of components. -/
def IsComponentCharacter (c : CodePoint) : Prop :=
  isPathCharacter c = true ∨ c = '.' ∨ c = '_' ∨ c = '-'

theorem isComponentCharacter_of_next {place place' : Place} {c : CodePoint}
    (h : place.next c = some place') : IsComponentCharacter c := by
  by_contra hc
  simp only [IsComponentCharacter, not_or] at hc
  obtain ⟨hpath, hdot, hlow, hhyphen⟩ := hc
  rw [Place.next.eq_def, if_neg hpath] at h
  cases place with
  | outside => cases h
  | word => simp [hdot, hlow, hhyphen] at h
  | lowLine => simp [hlow] at h
  | hyphen => simp [hhyphen] at h

theorem isComponentCharacter_of_endsWord {place : Place} {t : Text} (h : endsWord place t = true) :
    ∀ c ∈ t, IsComponentCharacter c := by
  induction t generalizing place with
  | nil => simp
  | cons d t ih =>
    rw [endsWord] at h
    split at h
    · rename_i place' hnext
      intro c hc
      rcases List.mem_cons.1 hc with rfl | hc
      · exact isComponentCharacter_of_next hnext
      · exact ih h c hc
    · cases h

/-- A component starts with a character of a word. -/
theorem exists_cons_of_isComponent {t : Text} (h : isComponent (line t) = true) :
    ∃ c rest, t = c :: rest ∧ isPathCharacter c = true := by
  have hfirst {c : CodePoint} {rest : Text} (hends : endsWord .outside (c :: rest) = true) :
      isPathCharacter c = true := by
    by_contra hpath
    rw [endsWord, Place.next, if_neg hpath] at hends
    cases hends
  rcases t with _ | ⟨d, _ | ⟨e, rest⟩⟩
  · cases h
  · rw [line] at h
    split_ifs at h
    · cases h
    · exact ⟨d, [], rfl, hfirst h⟩
  · rw [line] at h
    exact ⟨d, e :: rest, rfl, hfirst h⟩

theorem val_of_isComponentCharacter {c : CodePoint} (h : IsComponentCharacter c) :
    0x2D ≤ c.val ∧ c.val ≤ 0x7A := by
  rcases h with h | rfl | rfl | rfl
  · simp only [isPathCharacter, CodePoint.isAsciiLower, CodePoint.isAsciiDigit, Bool.or_eq_true,
      Bool.and_eq_true, decide_eq_true_eq] at h
    omega
  · decide
  · decide
  · decide

/-- The characters of hosts and ports. -/
def IsHostMark (c : CodePoint) : Prop :=
  isHostCharacter c = true ∨ c = ':' ∨ c = '[' ∨ c = ']'

theorem val_of_isHostMark {c : CodePoint} (h : IsHostMark c) : 0x2D ≤ c.val ∧ c.val ≤ 0x7A := by
  rcases h with h | rfl | rfl | rfl
  · simp only [isHostCharacter, CodePoint.isAsciiLetter, CodePoint.isAsciiLower,
      CodePoint.isAsciiUpper, CodePoint.isAsciiDigit, Bool.or_eq_true, Bool.and_eq_true,
      decide_eq_true_eq, CodePoint.eq_ofChar_iff] at h
    have hdot : ('.' : Char).toNat = 0x2E := rfl
    have hhyphen : ('-' : Char).toNat = 0x2D := rfl
    omega
  · decide
  · decide
  · decide

theorem isHostCharacter_of_isHexDigit {c : CodePoint} (h : c.isHexDigit = true) :
    isHostCharacter c = true := by
  simp only [CodePoint.isHexDigit, CodePoint.hexValue?, CodePoint.isAsciiDigit] at h
  simp only [isHostCharacter, CodePoint.isAsciiLetter, CodePoint.isAsciiLower,
    CodePoint.isAsciiUpper, CodePoint.isAsciiDigit, Bool.or_eq_true, Bool.and_eq_true,
    decide_eq_true_eq] at *
  split_ifs at h <;> first | omega | cases h

theorem of_isPort {t : Text} (h : isPort t = true) :
    ∀ c ∈ t, isHostCharacter c = true ∨ c = ':' := by
  rcases t with _ | ⟨d, digits⟩
  · simp
  · simp only [isPort, Bool.and_eq_true, decide_eq_true_eq, List.all_eq_true] at h
    obtain ⟨⟨hcolon, -⟩, hdigits⟩ := h
    intro c hc
    rcases List.mem_cons.1 hc with rfl | hc
    · exact .inr hcolon
    · exact .inl (by simp [isHostCharacter, hdigits c hc])

theorem isHostMark_of_isPort {t : Text} (h : isPort t = true) : ∀ c ∈ t, IsHostMark c :=
  fun c hc => (of_isPort h c hc).imp_right .inl

/-- Without a bracket, a host is a name, maybe with a port. -/
theorem of_isHost {t : Text} (h : isHost t = true) (hbracket : ('[' : CodePoint) ∉ t) :
    ∀ c ∈ t, isHostCharacter c = true ∨ c = ':' := by
  unfold isHost at h
  split_ifs at h with hhead
  · rcases t with _ | ⟨d, rest⟩
    · simp
    · simp only [CodePoint.some_bind_ofChar, List.head?_cons, beq_iff_eq, Option.some.injEq]
        at hhead
      exact absurd (hhead ▸ List.mem_cons_self) hbracket
  · simp only [Bool.and_eq_true] at h
    intro c hc
    rw [← List.takeWhile_append_dropWhile (p := isHostCharacter) (l := t), List.mem_append] at hc
    rcases hc with hc | hc
    · exact .inl (List.mem_takeWhile_imp hc)
    · exact of_isPort h.2 c hc

theorem isHostMark_of_isHost {t : Text} (h : isHost t = true) : ∀ c ∈ t, IsHostMark c := by
  unfold isHost at h
  split_ifs at h with hbracket
  · rcases t with _ | ⟨d, inner⟩
    · simp
    simp only [CodePoint.some_bind_ofChar, List.head?_cons, beq_iff_eq, Option.some.injEq]
      at hbracket
    simp only [List.drop_succ_cons, List.drop_zero, Bool.and_eq_true, CodePoint.some_bind_ofChar,
      beq_iff_eq] at h
    obtain ⟨⟨-, hclose⟩, hport⟩ := h
    intro c hc
    rcases List.mem_cons.1 hc with rfl | hc
    · exact .inr (.inr (.inl hbracket))
    rw [← List.takeWhile_append_dropWhile (p := isAddressCharacter) (l := inner),
      List.mem_append] at hc
    rcases hc with hc | hc
    · have haddress := List.mem_takeWhile_imp hc
      simp only [isAddressCharacter, Bool.or_eq_true, decide_eq_true_eq] at haddress
      rcases haddress with hhex | hcolon
      · exact .inl (isHostCharacter_of_isHexDigit hhex)
      · exact .inr (.inl hcolon)
    · rcases hrest : inner.dropWhile isAddressCharacter with _ | ⟨e, rest⟩
      · rw [hrest] at hc
        cases hc
      · rw [hrest] at hclose hport hc
        simp only [List.head?_cons, Option.some.injEq] at hclose
        rcases List.mem_cons.1 hc with rfl | hc
        · exact .inr (.inr (.inr hclose))
        · exact isHostMark_of_isPort hport c hc
  · simp only [Bool.and_eq_true] at h
    intro c hc
    rw [← List.takeWhile_append_dropWhile (p := isHostCharacter) (l := t), List.mem_append] at hc
    rcases hc with hc | hc
    · exact .inl (List.mem_takeWhile_imp hc)
    · exact isHostMark_of_isPort h.2 c hc

end Grammar

namespace Repository

open Grammar

theorem append_slash (s t : Text) : s ++ "/" ++ t = s ++ CodePoint.ofChar '/' :: t :=
  Text.append_mark rfl s t

/-- What parsing checks of a repository. -/
structure Parsed (r : Repository) : Prop where
  component : ∀ part ∈ r.path.split '/', isComponent (line part) = true
  host : isHost (line r.registry) = true

theorem parsed_of_parse {name : Text} {r : Repository} (h : parse name = .ok r) : r.Parsed := by
  unfold parse at h
  dsimp only at h
  split_ifs at h with _ hpath hhost
  · cases h
    simp only [Bool.not_eq_true, Bool.not_eq_false', List.all_eq_true] at hpath hhost
    exact ⟨hpath, hhost⟩

namespace Parsed

variable {r : Repository}

/-- The characters of a registry. -/
theorem registry (h : r.Parsed) {c : CodePoint} (hc : c ∈ r.registry) :
    IsHostMark c ∨ c = '\n' :=
  (mem_line hc).imp (isHostMark_of_isHost h.host c) id

/-- The characters of a path. -/
theorem path (h : r.Parsed) {c : CodePoint} (hc : c ∈ r.path) :
    IsComponentCharacter c ∨ c = '\n' ∨ c = '/' := by
  rcases Text.eq_or_mem_split hc '/' with hslash | ⟨part, hpart, hc⟩
  · exact .inr (.inr hslash)
  · rcases mem_line hc with hc | hc
    · exact .inl (isComponentCharacter_of_endsWord (h.component part hpart) c hc)
    · exact .inr (.inl hc)

/-- The printed form is ASCII. -/
theorem val_of_mem_toText (h : r.Parsed) {c : CodePoint} (hc : c ∈ r.toText) : c.val < 0x80 := by
  rw [toText, List.mem_append, List.mem_append] at hc
  rcases hc with (hc | hc) | hc
  · rcases h.registry hc with hmark | rfl
    · have hval := val_of_isHostMark hmark
      omega
    · decide
  · have hslash : ∀ c ∈ ("/" : Text), c.val < 0x80 := by decide
    exact hslash c hc
  · rcases h.path hc with hcharacter | rfl | rfl
    · have hval := val_of_isComponentCharacter hcharacter
      omega
    · decide
    · decide

/-- A mark that no character of a registry is does not occur in one. -/
theorem not_mem_registry (h : r.Parsed) {c : CodePoint} (hmark : ¬ IsHostMark c)
    (hline : c ≠ '\n') : c ∉ r.registry :=
  fun hc => (h.registry hc).elim hmark hline

theorem not_mem_path (h : r.Parsed) {c : CodePoint} (hmark : ¬ IsComponentCharacter c)
    (hline : c ≠ '\n') (hslash : c ≠ '/') : c ∉ r.path :=
  fun hc => (h.path hc).elim hmark fun hc => hc.elim hline hslash

/-- A registry without an opening bracket has no closing one. -/
theorem not_mem_bracket (h : r.Parsed) (hbracket : ('[' : CodePoint) ∉ r.registry) :
    (']' : CodePoint) ∉ r.registry := by
  intro hc
  rcases mem_line hc with hline | hfeed
  · have hopen : ('[' : CodePoint) ∉ line r.registry := fun hmem => hbracket (mem_of_mem_line hmem)
    exact absurd (of_isHost h.host hopen _ hline) (by decide)
  · exact absurd hfeed (by decide)

theorem slash_not_mem_registry (h : r.Parsed) : ('/' : CodePoint) ∉ r.registry :=
  h.not_mem_registry (by unfold IsHostMark; decide) (by decide)

theorem colon_not_mem_path (h : r.Parsed) : (':' : CodePoint) ∉ r.path :=
  h.not_mem_path (by unfold IsComponentCharacter; decide) (by decide) (by decide)

/-- Registry and path of a parsed repository are found in its printed form. -/
theorem toText_injective {s : Repository} (hr : r.Parsed) (hs : s.Parsed)
    (h : r.toText = s.toText) : r = s := by
  have hcut := congrArg (Text.cut? · '/') h
  simp only [toText, append_slash, Text.cut?_append_cons hr.slash_not_mem_registry,
    Text.cut?_append_cons hs.slash_not_mem_registry, Option.some.injEq, Prod.mk.injEq] at hcut
  obtain ⟨registry, path⟩ := r
  obtain ⟨registry', path'⟩ := s
  obtain ⟨rfl, rfl⟩ := hcut
  rfl

end Parsed
end Repository
end Signet
