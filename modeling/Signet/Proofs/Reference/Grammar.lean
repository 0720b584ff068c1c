import Mathlib
import Signet.Proofs.Reference.Repository

/-!
# The grammar of repositories

The checks of registries and path components are decided one character after the other. Here
the same grammar is written down as languages, made of runs of characters by concatenation,
alternatives and repetition, and the checks accept exactly the texts of these languages. A name
is accepted exactly if the registry and the components that it designates are in them. A line
feed at the end of each part is let through, since the checks look at one line only.

## Main definitions

* `Grammar.components`, `Grammar.hosts` — the languages of path components and of registries.
* `Grammar.lines l` — the texts of a language, each with or without a line feed at its end.
* `Repository.Designates name r` — the registry and the path that a name stands for.
-/
namespace Signet

namespace Grammar

open Computability

/-! ## Languages -/

/-- The one text. -/
def exactly (s : Text) : Language CodePoint := {t | t = s}

/-- Texts whose characters all pass a test. -/
def repeats (p : CodePoint → Bool) : Language CodePoint := {t | ∀ c ∈ t, p c = true}

/-- Texts of at least one character, all of which pass a test. -/
def runs (p : CodePoint → Bool) : Language CodePoint := {t | t ≠ [] ∧ ∀ c ∈ t, p c = true}

/-- The words of a component: small letters and digits. -/
def words : Language CodePoint := runs isPathCharacter

/-- What stands between two words: a dot, one or two low lines, or hyphens. -/
def separators : Language CodePoint :=
  exactly "." + exactly "_" + exactly "__" + runs fun c => c = '-'

/-- Words with separators in between. -/
def components : Language CodePoint := words * (separators * words)∗

/-- Nothing, or a colon and digits. -/
def ports : Language CodePoint := 1 + exactly ":" * runs CodePoint.isAsciiDigit

/-- Host names and bracketed addresses, with or without a port. -/
def hosts : Language CodePoint :=
  runs isHostCharacter * ports + exactly "[" * (runs isAddressCharacter * (exactly "]" * ports))

/-- The texts of a language, each with or without a line feed at its end. -/
def lines (l : Language CodePoint) : Language CodePoint := l * (1 + exactly "\n")

theorem mem_exactly {s t : Text} : t ∈ exactly s ↔ t = s := Iff.rfl

theorem mem_repeats {p : CodePoint → Bool} {t : Text} :
    t ∈ repeats p ↔ ∀ c ∈ t, p c = true := Iff.rfl

theorem nil_mem_repeats (p : CodePoint → Bool) : [] ∈ repeats p :=
  mem_repeats.2 (List.forall_mem_nil _)

theorem cons_mem_repeats {p : CodePoint → Bool} {c : CodePoint} (hc : p c = true) {t : Text}
    (ht : t ∈ repeats p) : c :: t ∈ repeats p :=
  mem_repeats.2 (List.forall_mem_cons.2 ⟨hc, ht⟩)

theorem cons_mem_runs {p : CodePoint → Bool} {c : CodePoint} (hc : p c = true) {t : Text}
    (ht : t ∈ repeats p) : c :: t ∈ runs p :=
  ⟨List.cons_ne_nil c t, cons_mem_repeats hc ht⟩

theorem exists_cons_of_mem_runs {p : CodePoint → Bool} {t : Text} (h : t ∈ runs p) :
    ∃ c rest, t = c :: rest ∧ p c = true ∧ rest ∈ repeats p := by
  obtain ⟨hne, h⟩ := h
  obtain ⟨c, rest, rfl⟩ := List.exists_cons_of_ne_nil hne
  exact ⟨c, rest, rfl, List.forall_mem_cons.1 h⟩

theorem mem_one_add_exactly {s t : Text} : t ∈ 1 + exactly s ↔ t = [] ∨ t = s := by
  rw [Language.mem_add, Language.mem_one, mem_exactly]

theorem append_mem_exactly_mul (s : Text) {t : Text} {l : Language CodePoint} (ht : t ∈ l) :
    s ++ t ∈ exactly s * l :=
  Language.append_mem_mul (mem_exactly.2 rfl) ht

theorem mem_separators {t : Text} :
    t ∈ separators ↔ t = "." ∨ t = "_" ∨ t = "__" ∨ t ∈ runs fun c => c = '-' := by
  simp only [separators, Language.mem_add, mem_exactly, or_assoc]

/-! ## Components -/

/-- What brings a component from a place to the end of a word: first the rest of a word or of a
separator, then words. -/
def Place.language : Place → Language CodePoint
  | .outside => components
  | .word => repeats isPathCharacter * (separators * words)∗
  | .lowLine => (1 + exactly "_") * components
  | .hyphen => repeats (fun c => c = '-') * components

theorem Place.language_outside : Place.outside.language = components := rfl

theorem Place.language_word :
    Place.word.language = repeats isPathCharacter * (separators * words)∗ := rfl

theorem Place.language_lowLine : Place.lowLine.language = (1 + exactly "_") * components := rfl

theorem Place.language_hyphen :
    Place.hyphen.language = repeats (fun c => c = '-') * components := rfl

theorem append_mem_star {l : Language CodePoint} {s t : Text} (hs : s ∈ l) (ht : t ∈ l∗) :
    s ++ t ∈ l∗ := by
  rw [← Language.one_add_self_mul_kstar_eq_kstar]
  exact .inr (Language.append_mem_mul hs ht)

/-- A component may go on behind a word with a separator and another component. -/
theorem separator_append_mem {s t : Text} (hs : s ∈ separators) (ht : t ∈ components) :
    s ++ t ∈ Place.word.language := by
  obtain ⟨w, hw, v, hv, rfl⟩ := Language.mem_mul.1 ht
  have hstar : (s ++ w) ++ v ∈ (separators * words)∗ :=
    append_mem_star (Language.append_mem_mul hs hw) hv
  rw [List.append_assoc] at hstar
  have hnil : [] ++ (s ++ (w ++ v)) ∈ repeats isPathCharacter * (separators * words)∗ :=
    Language.append_mem_mul (nil_mem_repeats _) hstar
  exact hnil

/-- A character of a word starts a component, and it goes on with one. -/
theorem cons_mem_components {c : CodePoint} (hc : isPathCharacter c = true) {t : Text}
    (ht : t ∈ Place.word.language) : c :: t ∈ components ∧ c :: t ∈ Place.word.language := by
  rw [Place.language_word] at ht ⊢
  obtain ⟨u, hu, v, hv, rfl⟩ := Language.mem_mul.1 ht
  constructor
  · exact Language.append_mem_mul (cons_mem_runs hc hu) hv
  · exact Language.append_mem_mul (cons_mem_repeats hc hu) hv

/-- Between words, a component may be all that is left. -/
theorem mem_language_of_mem_components {place : Place} (hplace : place ≠ .word) {t : Text}
    (ht : t ∈ components) : t ∈ place.language := by
  cases place with
  | outside => exact ht
  | word => exact absurd rfl hplace
  | lowLine =>
    rw [Place.language_lowLine]
    exact Language.append_mem_mul (a := []) (mem_one_add_exactly.2 (.inl rfl)) ht
  | hyphen =>
    rw [Place.language_hyphen]
    exact Language.append_mem_mul (a := []) (nil_mem_repeats _) ht

/-- The marks that may stand at a place, and the place behind each of them. -/
theorem next_cases {place place' : Place} {c : CodePoint} (hc : isPathCharacter c = false)
    (h : place.next c = some place') :
    (place = .word ∧ ((c = '.' ∧ place' = .outside) ∨ (c = '_' ∧ place' = .lowLine) ∨
      (c = '-' ∧ place' = .hyphen))) ∨
    (place = .lowLine ∧ c = '_' ∧ place' = .outside) ∨
    (place = .hyphen ∧ c = '-' ∧ place' = .hyphen) := by
  rw [Place.next.eq_def, hc] at h
  cases place with
  | outside => simp at h
  | word =>
    refine .inl ⟨rfl, ?_⟩
    dsimp only at h
    simp only [Bool.false_eq_true, if_false] at h
    split_ifs at h with hdot hlow hhyphen
    · exact .inl ⟨hdot, (Option.some.inj h).symm⟩
    · exact .inr (.inl ⟨hlow, (Option.some.inj h).symm⟩)
    · exact .inr (.inr ⟨hhyphen, (Option.some.inj h).symm⟩)
  | lowLine => simpa [eq_comm] using h
  | hyphen => simpa [eq_comm] using h

/-- A mark that may stand at a place is followed by what may stand at the next place. -/
theorem mark_cons_mem_language {place place' : Place} {c : CodePoint}
    (hc : isPathCharacter c = false) (hnext : place.next c = some place') {t : Text}
    (ht : t ∈ place'.language) : c :: t ∈ place.language := by
  rcases next_cases hc hnext with ⟨rfl, h⟩ | ⟨rfl, rfl, rfl⟩ | ⟨rfl, rfl, rfl⟩
  · rcases h with ⟨rfl, rfl⟩ | ⟨rfl, rfl⟩ | ⟨rfl, rfl⟩
    · exact separator_append_mem (s := ".") (mem_separators.2 (.inl rfl)) ht
    · rw [Place.language_lowLine] at ht
      obtain ⟨s, hs, v, hv, rfl⟩ := Language.mem_mul.1 ht
      have hseparator : CodePoint.ofChar '_' :: s ∈ separators := by
        rw [mem_separators]
        rcases mem_one_add_exactly.1 hs with rfl | rfl
        · exact .inr (.inl rfl)
        · exact .inr (.inr (.inl rfl))
      exact separator_append_mem hseparator hv
    · rw [Place.language_hyphen] at ht
      obtain ⟨s, hs, v, hv, rfl⟩ := Language.mem_mul.1 ht
      have hseparator : CodePoint.ofChar '-' :: s ∈ separators :=
        mem_separators.2 (.inr (.inr (.inr (cons_mem_runs (by simp) hs))))
      exact separator_append_mem hseparator hv
  · rw [Place.language_lowLine]
    exact Language.append_mem_mul (a := "_") (mem_one_add_exactly.2 (.inr rfl)) ht
  · rw [Place.language_hyphen] at ht ⊢
    obtain ⟨s, hs, v, hv, rfl⟩ := Language.mem_mul.1 ht
    exact Language.append_mem_mul (cons_mem_repeats (by simp) hs) hv

/-- What the reading from a place accepts is in the language of the place. -/
theorem mem_language_of_endsWord {place : Place} {t : Text} (h : endsWord place t = true) :
    t ∈ place.language := by
  induction t generalizing place with
  | nil =>
    simp only [endsWord, decide_eq_true_eq] at h
    rw [h, Place.language_word]
    exact Language.append_mem_mul (a := []) (nil_mem_repeats _) (Language.nil_mem_kstar _)
  | cons c t ih =>
    rw [endsWord] at h
    split at h
    · rename_i place' hnext
      have ht : t ∈ place'.language := ih h
      cases hc : isPathCharacter c with
      | false => exact mark_cons_mem_language hc hnext ht
      | true =>
        rw [Place.next.eq_def, if_pos hc, Option.some.injEq] at hnext
        subst hnext
        have hcons := cons_mem_components hc ht
        by_cases hplace : place = .word
        · rw [hplace]
          exact hcons.2
        · exact mem_language_of_mem_components hplace hcons.1
    · cases h

theorem next_of_isPathCharacter {c : CodePoint} (hc : isPathCharacter c = true) (place : Place) :
    place.next c = some .word := by
  rw [Place.next.eq_def, if_pos hc]

/-- Reading goes over the characters of a word. -/
theorem endsWord_word_append {u : Text} (hu : u ∈ repeats isPathCharacter) (t : Text) :
    endsWord .word (u ++ t) = endsWord .word t := by
  induction u with
  | nil => rfl
  | cons c u ih =>
    have hall := List.forall_mem_cons.1 hu
    rw [List.cons_append, endsWord, next_of_isPathCharacter hall.1]
    exact ih hall.2

/-- A word can be read from every place. -/
theorem endsWord_append {place : Place} {w : Text} (hw : w ∈ words) (t : Text) :
    endsWord place (w ++ t) = endsWord .word t := by
  obtain ⟨c, u, rfl, hc, hu⟩ := exists_cons_of_mem_runs hw
  rw [List.cons_append, endsWord, next_of_isPathCharacter hc]
  exact endsWord_word_append hu t

theorem endsWord_hyphens {s w : Text} (hs : s ∈ repeats fun c => c = '-') (hw : w ∈ words)
    (t : Text) : endsWord .hyphen (s ++ w ++ t) = endsWord .word t := by
  induction s with
  | nil => exact endsWord_append hw t
  | cons c s ih =>
    have hall := List.forall_mem_cons.1 hs
    obtain rfl : c = '-' := by simpa using hall.1
    exact ih hall.2

/-- Behind a word, a separator and a word can be read. -/
theorem endsWord_separator_append {s w : Text} (hs : s ∈ separators) (hw : w ∈ words) (t : Text) :
    endsWord .word (s ++ w ++ t) = endsWord .word t := by
  rcases mem_separators.1 hs with rfl | rfl | rfl | hhyphens
  · exact @endsWord_append .outside w hw t
  · exact @endsWord_append .lowLine w hw t
  · exact @endsWord_append .outside w hw t
  · obtain ⟨c, s, rfl, hc, hrest⟩ := exists_cons_of_mem_runs hhyphens
    obtain rfl : c = '-' := by simpa using hc
    exact endsWord_hyphens hrest hw t

theorem endsWord_of_mem_star {t : Text} (h : t ∈ (separators * words)∗) :
    endsWord .word t = true := by
  obtain ⟨pieces, rfl, hpieces⟩ := Language.mem_kstar.1 h
  clear h
  induction pieces with
  | nil => rfl
  | cons piece pieces ih =>
    obtain ⟨s, hs, w, hw, rfl⟩ := Language.mem_mul.1 (hpieces piece List.mem_cons_self)
    rw [List.flatten_cons, endsWord_separator_append hs hw]
    exact ih fun y hy => hpieces y (List.mem_cons_of_mem _ hy)

/-- The check of components accepts exactly their language. -/
theorem isComponent_iff {t : Text} : isComponent t = true ↔ t ∈ components := by
  constructor
  · intro h
    rw [← Place.language_outside]
    exact mem_language_of_endsWord h
  · intro h
    obtain ⟨w, hw, v, hv, rfl⟩ := Language.mem_mul.1 h
    rw [isComponent, endsWord_append hw]
    exact endsWord_of_mem_star hv

/-! ## Hosts -/

theorem isPort_iff {t : Text} : isPort t = true ↔ t ∈ ports := by
  cases t with
  | nil => exact iff_of_true rfl (.inl rfl)
  | cons c digits =>
    simp only [isPort, Bool.and_eq_true, decide_eq_true_eq, Bool.not_eq_true',
      List.isEmpty_eq_false_iff, List.all_eq_true]
    constructor
    · intro h
      obtain ⟨⟨rfl, hne⟩, hdigits⟩ := h
      exact .inr (Language.mem_mul.2 ⟨":", rfl, digits, ⟨hne, hdigits⟩, rfl⟩)
    · intro h
      rcases h with h | h
      · cases h
      · obtain ⟨_, rfl, digits', ⟨hne, hdigits⟩, heq⟩ := Language.mem_mul.1 h
        obtain ⟨rfl, rfl⟩ := List.cons.inj heq
        exact ⟨⟨rfl, hne⟩, hdigits⟩

/-- The longest beginning that passes a test, where what stands behind it does not pass. -/
theorem takeWhile_append_of_head {p : CodePoint → Bool} {s rest : Text}
    (hs : ∀ c ∈ s, p c = true) (hrest : ∀ c ∈ rest.head?, p c = false) :
    (s ++ rest).takeWhile p = s ∧ (s ++ rest).dropWhile p = rest := by
  have hnone : rest.takeWhile p = [] ∧ rest.dropWhile p = rest := by
    cases rest with
    | nil => exact ⟨rfl, rfl⟩
    | cons c rest => simp [hrest c rfl]
  rw [List.takeWhile_append_of_pos hs, List.dropWhile_append_of_pos hs, hnone.1, hnone.2]
  exact ⟨List.append_nil s, rfl⟩

/-- A port starts with a colon. -/
theorem head?_of_mem_ports {t : Text} (h : t ∈ ports) : ∀ c ∈ t.head?, c = ':' := by
  intro c hc
  rw [← isPort_iff] at h
  cases t with
  | nil => cases hc
  | cons d digits =>
    simp only [isPort, Bool.and_eq_true, decide_eq_true_eq] at h
    cases hc
    exact h.1.1

theorem isHost_iff_of_bracket {inner : Text} :
    isHost ('[' :: inner) = true ↔ inner ∈ runs isAddressCharacter * (exactly "]" * ports) := by
  simp only [isHost, CodePoint.some_bind_ofChar, List.head?_cons, beq_self_eq_true, if_true,
    List.drop_succ_cons, List.drop_zero, Bool.and_eq_true, Bool.not_eq_true',
    List.isEmpty_eq_false_iff, beq_iff_eq]
  constructor
  · intro h
    obtain ⟨⟨hne, hclose⟩, hport⟩ := h
    have hsplit := List.takeWhile_append_dropWhile (p := isAddressCharacter) (l := inner)
    cases hrest : inner.dropWhile isAddressCharacter with
    | nil => simp [hrest] at hclose
    | cons d rest =>
      rw [hrest] at hclose hport hsplit
      simp only [List.head?_cons, Option.some.injEq] at hclose
      subst hclose
      have haddress : inner.takeWhile isAddressCharacter ∈ runs isAddressCharacter :=
        ⟨hne, fun c hc => List.mem_takeWhile_imp hc⟩
      have hbehind : (']' : CodePoint) :: rest ∈ exactly "]" * ports :=
        append_mem_exactly_mul "]" (isPort_iff.1 hport)
      rw [← hsplit]
      exact Language.append_mem_mul haddress hbehind
  · intro h
    obtain ⟨address, haddress, _, hbehind, rfl⟩ := Language.mem_mul.1 h
    obtain ⟨_, rfl, port, hport, rfl⟩ := Language.mem_mul.1 hbehind
    have hclose : ∀ c ∈ (("]" : Text) ++ port).head?, isAddressCharacter c = false := by
      intro c hc
      obtain rfl : ']' = c := Option.some.inj hc
      decide
    have hparts := takeWhile_append_of_head haddress.2 hclose
    rw [hparts.1, hparts.2]
    exact ⟨⟨haddress.1, rfl⟩, isPort_iff.2 hport⟩

theorem isHost_iff_of_head {t : Text} (h : t.head? ≠ some (CodePoint.ofChar '[')) :
    isHost t = true ↔ t ∈ runs isHostCharacter * ports := by
  have hhead : (t.head? == some (CodePoint.ofChar '[')) = false := by simpa using h
  simp only [isHost, CodePoint.some_bind_ofChar, hhead, Bool.false_eq_true, if_false,
    Bool.and_eq_true, Bool.not_eq_true', List.isEmpty_eq_false_iff]
  constructor
  · intro h
    have hname : t.takeWhile isHostCharacter ∈ runs isHostCharacter :=
      ⟨h.1, fun c hc => List.mem_takeWhile_imp hc⟩
    have hall := Language.append_mem_mul hname (isPort_iff.1 h.2)
    rwa [List.takeWhile_append_dropWhile] at hall
  · intro h
    obtain ⟨name, hname, port, hport, rfl⟩ := Language.mem_mul.1 h
    have hcolon : ∀ c ∈ port.head?, isHostCharacter c = false := by
      intro c hc
      rw [head?_of_mem_ports hport c hc]
      decide
    have hparts := takeWhile_append_of_head hname.2 hcolon
    rw [hparts.1, hparts.2]
    exact ⟨hname.1, isPort_iff.2 hport⟩

/-- A bracket is no character of a host name. -/
theorem head?_ne_bracket {t : Text} (h : t ∈ runs isHostCharacter * ports) :
    t.head? ≠ some (CodePoint.ofChar '[') := by
  obtain ⟨name, hname, port, -, rfl⟩ := Language.mem_mul.1 h
  obtain ⟨c, name, rfl, hc, -⟩ := exists_cons_of_mem_runs hname
  intro hhead
  obtain rfl : c = CodePoint.ofChar '[' := Option.some.inj hhead
  exact absurd hc (by decide)

/-- The check of hosts accepts exactly their language. -/
theorem isHost_iff {t : Text} : isHost t = true ↔ t ∈ hosts := by
  rw [hosts, Language.mem_add]
  by_cases hhead : t.head? = some (CodePoint.ofChar '[')
  · obtain ⟨inner, rfl⟩ := List.head?_eq_some_iff.1 hhead
    have hname : ¬ CodePoint.ofChar '[' :: inner ∈ runs isHostCharacter * ports :=
      fun h => head?_ne_bracket h hhead
    rw [isHost_iff_of_bracket, or_iff_right hname]
    constructor
    · intro h
      exact append_mem_exactly_mul "[" h
    · intro h
      obtain ⟨_, rfl, inner', hinner, heq⟩ := Language.mem_mul.1 h
      rwa [← (List.cons.inj heq).2]
  · have hbracket : ¬ t ∈ exactly "[" * (runs isAddressCharacter * (exactly "]" * ports)) := by
      intro h
      obtain ⟨_, rfl, inner, -, rfl⟩ := Language.mem_mul.1 h
      exact hhead rfl
    rw [isHost_iff_of_head hhead, or_iff_left hbracket]

/-! ## Lines -/

theorem line_append_lineFeed (t : Text) : line (t ++ "\n") = t := by
  induction t with
  | nil => rfl
  | cons c t ih =>
    obtain ⟨d, rest, hrest⟩ : ∃ d rest, t ++ ("\n" : Text) = d :: rest :=
      List.exists_cons_of_ne_nil (by simp [Text.ofString])
    rw [hrest] at ih
    rw [List.cons_append, hrest, line, ih]

theorem line_eq_self {t : Text} (h : ('\n' : CodePoint) ∉ t) : line t = t := by
  induction t using line.induct with
  | case1 => rfl
  | case2 => simp at h
  | case3 c hc => rw [line, if_neg hc]
  | case4 c d rest ih => rw [line, ih (fun hmem => h (List.mem_cons_of_mem _ hmem))]

theorem eq_or_eq_line_append (t : Text) : t = line t ∨ t = line t ++ "\n" := by
  induction t using line.induct with
  | case1 => exact .inl rfl
  | case2 => exact .inr rfl
  | case3 c hc => exact .inl (by rw [line, if_neg hc])
  | case4 c d rest ih =>
    rw [line]
    rcases ih with ih | ih
    · exact .inl (congrArg (c :: ·) ih)
    · exact .inr (congrArg (c :: ·) ih)

/-- The line of a text is in a language without line feeds exactly if the text is, or the text
without a line feed at its end. -/
theorem line_mem_iff {l : Language CodePoint} (hl : ∀ s ∈ l, ('\n' : CodePoint) ∉ s) {t : Text} :
    line t ∈ l ↔ t ∈ lines l := by
  rw [lines, Language.mem_mul]
  constructor
  · intro h
    rcases eq_or_eq_line_append t with heq | heq
    · exact ⟨line t, h, [], .inl rfl, by rw [List.append_nil, ← heq]⟩
    · exact ⟨line t, h, "\n", .inr rfl, heq.symm⟩
  · intro h
    obtain ⟨s, hs, feed, hfeed, rfl⟩ := h
    rcases hfeed with rfl | rfl
    · rwa [List.append_nil, line_eq_self (hl s hs)]
    · rwa [line_append_lineFeed]

/-- Without a line feed in the text, the end of the line is the end of the text. -/
theorem mem_lines_iff_of_not_mem {l : Language CodePoint} {t : Text}
    (h : ('\n' : CodePoint) ∉ t) : t ∈ lines l ↔ t ∈ l := by
  rw [lines, Language.mem_mul]
  constructor
  · intro hlines
    obtain ⟨s, hs, feed, hfeed, rfl⟩ := hlines
    rcases hfeed with rfl | rfl
    · rwa [List.append_nil]
    · exact absurd (List.mem_append_right s (List.mem_singleton.2 rfl)) h
  · intro hmem
    exact ⟨t, hmem, [], .inl rfl, List.append_nil t⟩

theorem lineFeed_not_mem_of_components {t : Text} (h : t ∈ components) :
    ('\n' : CodePoint) ∉ t := by
  intro hmem
  have hval := val_of_isComponentCharacter
    (isComponentCharacter_of_endsWord (isComponent_iff.2 h) _ hmem)
  exact absurd hval (by decide)

theorem lineFeed_not_mem_of_hosts {t : Text} (h : t ∈ hosts) : ('\n' : CodePoint) ∉ t := by
  intro hmem
  exact absurd (val_of_isHostMark (isHostMark_of_isHost (isHost_iff.2 h) _ hmem)) (by decide)

/-- The first part of a name is a registry: it has a dot or a colon, is the local host, or opens
a bracket. -/
def LooksLikeHost (t : Text) : Prop :=
  ('.' : CodePoint) ∈ t ∨ (':' : CodePoint) ∈ t ∨ t = "localhost" ∨
    ∃ rest : Text, t = ('[' : CodePoint) :: rest

theorem looksLikeHost_iff {t : Text} : looksLikeHost t = true ↔ LooksLikeHost t := by
  simp only [looksLikeHost, LooksLikeHost, Bool.or_eq_true, List.any_eq_true, decide_eq_true_eq,
    beq_iff_eq, CodePoint.some_bind_ofChar, List.head?_eq_some_iff, exists_or, exists_eq_right,
    and_or_left, or_assoc]

end Grammar

namespace Repository

open Grammar

/-! ## Names -/

/-- What a name stands for: a path on the registry that it names, or else a path on the hub. There
a path of one component belongs to the common namespace. -/
inductive Designates : Text → Repository → Prop
  /-- The part before the first slash is a registry. -/
  | named {registry path : Text} (hslash : ('/' : CodePoint) ∉ registry)
    (hhost : LooksLikeHost registry)
    (hpath : registry = defaultRegistry → ('/' : CodePoint) ∈ path) :
    Designates (registry ++ "/" ++ path) ⟨registry, path⟩
  /-- The hub is named, with a path of one component. -/
  | hub {path : Text} (hpath : ('/' : CodePoint) ∉ path) :
    Designates (defaultRegistry ++ "/" ++ path) ⟨defaultRegistry, defaultNamespace ++ "/" ++ path⟩
  /-- The part before the first slash is none. -/
  | unnamed {first rest : Text} (hslash : ('/' : CodePoint) ∉ first)
    (hhost : ¬ LooksLikeHost first) :
    Designates (first ++ "/" ++ rest) ⟨defaultRegistry, first ++ "/" ++ rest⟩
  /-- There is no slash. -/
  | single {name : Text} (hslash : ('/' : CodePoint) ∉ name) :
    Designates name ⟨defaultRegistry, defaultNamespace ++ "/" ++ name⟩

theorem slash_not_mem_defaultRegistry : ('/' : CodePoint) ∉ defaultRegistry := by decide

theorem looksLikeHost_defaultRegistry : LooksLikeHost defaultRegistry := by
  rw [← looksLikeHost_iff]
  decide

/-- A name is located as what it designates. -/
theorem Designates.eq_locate {name : Text} {r : Repository} (h : Designates name r) :
    locate name = r := by
  cases h with
  | @named registry path hslash hhost hpath =>
    have hhub : ¬ (registry = defaultRegistry ∧ ('/' : CodePoint) ∉ path) :=
      fun h => h.2 (hpath h.1)
    simp only [locate, append_slash, Text.cut?_append_cons hslash, looksLikeHost_iff.2 hhost,
      if_true, if_neg hhub]
  | @hub path hpath =>
    have hhost := looksLikeHost_iff.2 looksLikeHost_defaultRegistry
    have hcut : (defaultRegistry ++ "/" ++ path).cut? '/' = some (defaultRegistry, path) := by
      rw [append_slash, Text.cut?_append_cons slash_not_mem_defaultRegistry]
    simp only [locate, hcut, hhost, if_true, hpath, not_false_eq_true, and_self]
  | @unnamed first rest hslash hhost =>
    have hhost' : looksLikeHost first = false :=
      Bool.eq_false_iff.2 fun h => hhost (looksLikeHost_iff.1 h)
    have hmem : ('/' : CodePoint) ∈ first ++ CodePoint.ofChar '/' :: rest := by simp
    simp only [locate, append_slash, Text.cut?_append_cons hslash, hhost', Bool.false_eq_true,
      if_false, hmem, not_true_eq_false, and_false]
  | @single name hslash =>
    simp only [locate, Text.cut?_eq_none_iff.2 hslash, hslash, not_false_eq_true, and_self,
      if_true]

/-- Every name designates a repository. -/
theorem exists_designates (name : Text) : ∃ r, Designates name r := by
  cases hcut : name.cut? '/' with
  | none => exact ⟨_, .single (Text.cut?_eq_none_iff.1 hcut)⟩
  | some parts =>
    obtain ⟨first, rest⟩ := parts
    obtain ⟨hname, hslash⟩ := Text.eq_of_cut?_eq_some hcut
    rw [← append_slash] at hname
    subst hname
    by_cases hhost : LooksLikeHost first
    · by_cases hhub : first = defaultRegistry → ('/' : CodePoint) ∈ rest
      · exact ⟨_, .named hslash hhost hhub⟩
      · obtain ⟨rfl, hpath⟩ := Classical.not_imp.1 hhub
        exact ⟨_, .hub hpath⟩
    · exact ⟨_, .unnamed hslash hhost⟩

theorem designates_iff {name : Text} {r : Repository} : Designates name r ↔ locate name = r := by
  constructor
  · exact Designates.eq_locate
  · intro h
    obtain ⟨s, hs⟩ := exists_designates name
    rwa [← h, hs.eq_locate]

/-- The registry and every component of the path are in the languages, with or without a line feed
at the end. -/
theorem parsed_iff_mem_lines {r : Repository} :
    r.Parsed ↔ r.registry ∈ lines hosts ∧ ∀ part ∈ r.path.split '/', part ∈ lines components := by
  have hcomponent (part : Text) : isComponent (line part) = true ↔ part ∈ lines components := by
    rw [isComponent_iff, line_mem_iff fun _ h => lineFeed_not_mem_of_components h]
  have hhost : isHost (line r.registry) = true ↔ r.registry ∈ lines hosts := by
    rw [isHost_iff, line_mem_iff fun _ h => lineFeed_not_mem_of_hosts h]
  constructor
  · intro h
    exact ⟨hhost.1 h.host, fun part hpart => (hcomponent part).1 (h.component part hpart)⟩
  · intro h
    exact ⟨fun part hpart => (hcomponent part).2 (h.2 part hpart), hhost.2 h.1⟩

/-- A name is accepted if it is not empty and what it designates passes the checks. -/
theorem parse_eq_ok_iff {name : Text} {r : Repository} :
    parse name = .ok r ↔ name ≠ [] ∧ Designates name r ∧ r.Parsed := by
  rw [designates_iff, parse]
  by_cases hempty : name = []
  · simp [hempty]
  · rw [if_neg hempty]
    dsimp only
    constructor
    · intro h
      split_ifs at h with hpath hhost
      cases h
      simp only [Bool.not_eq_true, Bool.not_eq_false', List.all_eq_true] at hpath hhost
      exact ⟨hempty, rfl, hpath, hhost⟩
    · intro h
      obtain ⟨-, rfl, hparsed⟩ := h
      have hpath := List.all_eq_true.2 hparsed.component
      simp only [hpath, hparsed.host, Bool.not_true, Bool.false_eq_true, if_false]

/-- The characters of a name are those of what it designates and the slash. -/
theorem Designates.mem_name {name : Text} {r : Repository} (h : Designates name r) {c : CodePoint}
    (hc : c ∈ name) : c ∈ r.registry ∨ c = '/' ∨ c ∈ r.path := by
  have hslash (d : CodePoint) : d ∈ ("/" : Text) ↔ d = '/' := List.mem_singleton
  cases h with
  | named _ _ _ | hub _ | unnamed _ _ | single _ =>
    simp only [List.mem_append, hslash] at hc ⊢
    tauto

/-- The characters of what a name designates are those of the name and of the hub. -/
theorem Designates.mem {name : Text} {r : Repository} (h : Designates name r) {c : CodePoint}
    (hc : c ∈ r.registry ∨ c ∈ r.path) :
    c ∈ name ∨ c ∈ defaultRegistry ++ "/" ++ defaultNamespace := by
  cases h with
  | named _ _ _ | hub _ | unnamed _ _ | single _ =>
    simp only [List.mem_append] at hc ⊢
    tauto

/-- The registry and every component of the path are in the languages as they stand. -/
structure InGrammar (r : Repository) : Prop where
  registry : r.registry ∈ hosts
  component : ∀ part ∈ r.path.split '/', part ∈ components

/-- What passes the checks is in the grammar exactly if it has no line feed. -/
theorem Parsed.inGrammar_iff {name : Text} {r : Repository} (h : r.Parsed)
    (hname : Designates name r) : r.InGrammar ↔ ('\n' : CodePoint) ∉ name := by
  rw [parsed_iff_mem_lines] at h
  constructor
  · intro hgrammar hfeed
    rcases hname.mem_name hfeed with hfeed | hfeed | hfeed
    · exact lineFeed_not_mem_of_hosts hgrammar.registry hfeed
    · exact absurd hfeed (by decide)
    · rcases Text.eq_or_mem_split hfeed '/' with hslash | ⟨part, hpart, hfeed⟩
      · exact absurd hslash (by decide)
      · exact lineFeed_not_mem_of_components (hgrammar.component part hpart) hfeed
  · intro hfeed
    have hhub : ('\n' : CodePoint) ∉ defaultRegistry ++ "/" ++ defaultNamespace := by decide
    have hnone (c : CodePoint) (hc : c ∈ r.registry ∨ c ∈ r.path) : c ≠ '\n' := by
      intro heq
      subst heq
      exact (hname.mem hc).elim hfeed hhub
    constructor
    · exact (mem_lines_iff_of_not_mem fun hc => hnone _ (.inl hc) rfl).1 h.1
    · intro part hpart
      have hpartFeed : ('\n' : CodePoint) ∉ part :=
        fun hc => hnone _ (.inr (Text.mem_of_mem_split hpart hc)) rfl
      exact (mem_lines_iff_of_not_mem hpartFeed).1 (h.2 part hpart)

/-- A name is accepted exactly if it is not empty and the registry and the components of the path
that it designates are in the grammar, each with or without a line feed at its end. They are in
the grammar as they stand exactly if the name has no line feed. -/
theorem accepted_iff (name : Text) (r : Repository) :
    (parse name = .ok r ↔
      name ≠ [] ∧ Designates name r ∧ r.registry ∈ lines hosts ∧
        ∀ part ∈ r.path.split '/', part ∈ lines components) ∧
    (parse name = .ok r → (r.InGrammar ↔ ('\n' : CodePoint) ∉ name)) := by
  constructor
  · rw [parse_eq_ok_iff, parsed_iff_mem_lines]
  · intro h
    obtain ⟨-, hname, hparsed⟩ := parse_eq_ok_iff.1 h
    exact hparsed.inGrammar_iff hname

theorem accepted_iff_withPort :
    parse "localhost:5000/a__b" = .ok ⟨"localhost:5000", "a__b"⟩ ∧
      InGrammar ⟨"localhost:5000", "a__b"⟩ := by
  have hok : parse "localhost:5000/a__b" = .ok ⟨"localhost:5000", "a__b"⟩ := by decide +kernel
  exact ⟨hok, ((accepted_iff _ _).2 hok).2 (by decide)⟩

/-- The grammar alone does not tell which names are accepted: a line feed at the end of a component
is. -/
theorem lineFeed_accepted :
    ¬ ∀ name : Text, (∃ r, parse name = .ok r) ↔
      name ≠ [] ∧ ∃ r, Designates name r ∧ r.InGrammar := by
  intro h
  have hok : parse "a\n" = .ok ⟨defaultRegistry, "library/a\n"⟩ := by decide +kernel
  obtain ⟨-, r, hname, hgrammar⟩ := (h "a\n").1 ⟨_, hok⟩
  obtain ⟨-, hname', hparsed⟩ := parse_eq_ok_iff.1 hok
  obtain rfl : _ = r := hname'.eq_locate.symm.trans hname.eq_locate
  exact (hparsed.inGrammar_iff hname).1 hgrammar (by decide)

end Repository
end Signet
