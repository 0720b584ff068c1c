import Mathlib
import Signet.Proofs.Exchange.Checks
import Signet.Proofs.Text.CodePoint
import Signet.Settings.Basic

/-!
# References in values

The references of a value can be followed if the value is made of characters other than the percent
sign, of doubled percent signs and of closed references to options that are there, and if the
values of these options can be followed in turn, on fewer levels. A value without percent signs
stands for itself and needs no level.

## Main definitions

* `Interpolation.Expands` — the text that a value stands for, by the parts of the value.
-/
namespace Signet
namespace Interpolation

/-- A reference to an option, as it is written in a value. -/
def reference (name : Text) : Text := "%(" ++ name ++ ")s"

/-- The value stands for the text, with references followed on the given number of levels. -/
inductive Expands (values : Text → Option Text) : Nat → Text → Text → Prop
  | nil {depth : Nat} : Expands values (depth + 1) [] []
  | literal {depth : Nat} {c : CodePoint} {t u : Text} (hc : c ≠ '%')
    (h : Expands values (depth + 1) t u) : Expands values (depth + 1) (c :: t) (c :: u)
  | percent {depth : Nat} {t u : Text} (h : Expands values (depth + 1) t u) :
    Expands values (depth + 1) ("%%" ++ t) ("%" ++ u)
  | plain {depth : Nat} {name v t u : Text} (hname : name ≠ []) (hclose : (')' : CodePoint) ∉ name)
    (hv : values name.lower = some v) (hmark : ('%' : CodePoint) ∉ v)
    (h : Expands values (depth + 1) t u) : Expands values (depth + 1) (reference name ++ t) (v ++ u)
  | nested {depth : Nat} {name v w t u : Text} (hname : name ≠ [])
    (hclose : (')' : CodePoint) ∉ name) (hv : values name.lower = some v)
    (hmark : ('%' : CodePoint) ∈ v) (hvalue : Expands values depth v w)
    (h : Expands values (depth + 1) t u) : Expands values (depth + 1) (reference name ++ t) (w ++ u)

variable {values : Text → Option Text} {depth : Nat} {option name value s t u : Text}

/-! ## The parts of a value -/

theorem expands_nil_iff : Expands values (depth + 1) [] u ↔ u = [] := by
  constructor
  · intro h
    cases h
    rfl
  · rintro rfl
    exact .nil

theorem expands_literal_iff {c : CodePoint} (hc : c ≠ '%') :
    Expands values (depth + 1) (c :: t) u ↔ ∃ w, Expands values (depth + 1) t w ∧ u = c :: w := by
  constructor
  · intro h
    cases h with
    | literal _ h => exact ⟨_, h, rfl⟩
    | percent _ | plain _ _ _ _ _ | nested _ _ _ _ _ _ => exact absurd rfl hc
  · rintro ⟨w, h, rfl⟩
    exact .literal hc h

theorem expands_literals_iff (hs : ('%' : CodePoint) ∉ s) :
    Expands values (depth + 1) (s ++ t) u ↔ ∃ w, Expands values (depth + 1) t w ∧ u = s ++ w := by
  induction s generalizing u with
  | nil => simp
  | cons c s ih =>
    obtain ⟨hc, hs⟩ := not_or.1 (mt List.mem_cons.2 hs)
    rw [List.cons_append, expands_literal_iff (Ne.symm hc)]
    simp [ih hs]

/-- A value without percent signs stands for itself. -/
theorem expands_of_not_mem (ht : ('%' : CodePoint) ∉ t) : Expands values (depth + 1) t t := by
  have h : Expands values (depth + 1) (t ++ []) t :=
    (expands_literals_iff ht).2 ⟨[], .nil, (List.append_nil t).symm⟩
  rwa [List.append_nil] at h

theorem doubled_append (t : Text) :
    "%%" ++ t = CodePoint.ofChar '%' :: CodePoint.ofChar '%' :: t := rfl

theorem reference_append (name t : Text) :
    reference name ++ t = CodePoint.ofChar '%' :: CodePoint.ofChar '(' ::
      (name ++ CodePoint.ofChar ')' :: CodePoint.ofChar 's' :: t) := by
  have hclose : (")s" : Text) = [CodePoint.ofChar ')', CodePoint.ofChar 's'] := rfl
  rw [reference, hclose, List.append_assoc, List.append_assoc]
  rfl

/-- What a reference is cut into at its closing bracket. -/
theorem reference_append_inj {name name' t t' : Text} (hclose : (')' : CodePoint) ∉ name)
    (hclose' : (')' : CodePoint) ∉ name') (h : reference name ++ t = reference name' ++ t') :
    name = name' ∧ t = t' := by
  rw [reference_append, reference_append, List.cons.injEq, List.cons.injEq] at h
  have hcut := congrArg (Text.cut? · ')') h.2.2
  simpa [Text.cut?_append_cons hclose, Text.cut?_append_cons hclose'] using hcut

theorem doubled_ne_reference (name t t' : Text) : "%%" ++ t ≠ reference name ++ t' := by
  rw [doubled_append, reference_append]
  intro h
  exact absurd (List.cons.inj (List.cons.inj h).2).1 (by decide)

theorem expands_percent_iff : Expands values (depth + 1) ("%%" ++ t) u ↔
    ∃ w, Expands values (depth + 1) t w ∧ u = "%" ++ w := by
  constructor
  · intro h
    generalize hs : ("%%" : Text) ++ t = s at h
    cases h with
    | nil => cases hs
    | literal hc _ => exact absurd (List.cons.inj hs).1.symm hc
    | percent h =>
      rw [List.append_cancel_left hs]
      exact ⟨_, h, rfl⟩
    | plain _ _ _ _ _ | nested _ _ _ _ _ _ => exact absurd hs (doubled_ne_reference _ _ _)
  · rintro ⟨w, h, rfl⟩
    exact .percent h

/-- The value of an option that is referred to stands for the text, one level deeper if it has
references of its own. -/
def Refers (values : Text → Option Text) (depth : Nat) (name w : Text) : Prop :=
  ∃ v, values name.lower = some v ∧
    if ('%' : CodePoint) ∈ v then Expands values depth v w else w = v

theorem expands_reference_iff (hname : name ≠ []) (hclose : (')' : CodePoint) ∉ name) :
    Expands values (depth + 1) (reference name ++ t) u ↔
      ∃ v w, Refers values depth name v ∧ Expands values (depth + 1) t w ∧ u = v ++ w := by
  constructor
  · intro h
    generalize hs : reference name ++ t = s at h
    cases h with
    | nil =>
      rw [reference_append] at hs
      cases hs
    | literal hc _ =>
      rw [reference_append] at hs
      exact absurd (List.cons.inj hs).1.symm hc
    | percent _ => exact absurd hs.symm (doubled_ne_reference _ _ _)
    | plain _ hclose' hv hmark h =>
      obtain ⟨rfl, rfl⟩ := reference_append_inj hclose hclose' hs
      exact ⟨_, _, ⟨_, hv, by rw [if_neg hmark]⟩, h, rfl⟩
    | nested _ hclose' hv hmark hvalue h =>
      obtain ⟨rfl, rfl⟩ := reference_append_inj hclose hclose' hs
      exact ⟨_, _, ⟨_, hv, by rwa [if_pos hmark]⟩, h, rfl⟩
  · rintro ⟨w, u, ⟨v, hv, hvalue⟩, h, rfl⟩
    split_ifs at hvalue with hmark
    · exact .nested hname hclose hv hmark hvalue h
    · rw [hvalue]
      exact .plain hname hclose hv hmark h

/-- A percent sign starts a doubled one or a reference. -/
def StartsPart (t : Text) : Prop :=
  (∃ rest, t = "%%" ++ rest) ∨
    ∃ name rest, name ≠ [] ∧ (')' : CodePoint) ∉ name ∧ t = reference name ++ rest

theorem startsPart_of_expands (h : Expands values (depth + 1) (CodePoint.ofChar '%' :: t) u) :
    StartsPart (CodePoint.ofChar '%' :: t) := by
  generalize hs : CodePoint.ofChar '%' :: t = s at h
  cases h with
  | nil => cases hs
  | literal hc _ => exact absurd (List.cons.inj hs).1.symm hc
  | percent _ => exact .inl ⟨_, rfl⟩
  | plain hname hclose _ _ _ | nested hname hclose _ _ _ _ =>
    exact .inr ⟨_, _, hname, hclose, rfl⟩

/-! ## Pieces -/

/-- Up to its next percent sign, a text is one piece. -/
theorem pieces_literal {c : CodePoint} (hc : c ≠ '%') (fuel : Nat) (rest : Text) :
    ∃ s t, c :: rest = s ++ t ∧ ('%' : CodePoint) ∉ s ∧ t.length ≤ rest.length ∧
      pieces (fuel + 1) (c :: rest) = .literal s :: pieces fuel t := by
  have hdrop : (c :: rest).dropWhile (fun c : CodePoint => c ≠ '%') =
      rest.dropWhile fun c : CodePoint => c ≠ '%' := by
    simp [hc]
  refine ⟨(c :: rest).takeWhile fun c : CodePoint => c ≠ '%',
    (c :: rest).dropWhile fun c : CodePoint => c ≠ '%', List.takeWhile_append_dropWhile.symm,
    ?_, ?_, ?_⟩
  · intro hmem
    simpa using List.mem_takeWhile_imp hmem
  · rw [hdrop]
    exact (List.dropWhile_sublist _).length_le
  · simp only [pieces, ne_eq, hc, not_false_eq_true, if_true]

theorem pieces_doubled (fuel : Nat) (t : Text) :
    pieces (fuel + 1) ("%%" ++ t) = .literal "%" :: pieces fuel t := rfl

theorem pieces_reference (hname : name ≠ []) (hclose : (')' : CodePoint) ∉ name) (fuel : Nat)
    (t : Text) : pieces (fuel + 1) (reference name ++ t) = .reference name :: pieces fuel t := by
  have hopen : CodePoint.ofChar '(' ≠ CodePoint.ofChar '%' := by decide
  rw [reference_append]
  simp [pieces, hopen, Text.cut?_append_cons hclose, hname]

/-- A percent sign that starts nothing is a fault, and the last piece. -/
theorem pieces_fault (h : ¬ StartsPart (CodePoint.ofChar '%' :: t)) (fuel : Nat) :
    pieces (fuel + 1) (CodePoint.ofChar '%' :: t) = [.stray (CodePoint.ofChar '%' :: t)] ∨
      pieces (fuel + 1) (CodePoint.ofChar '%' :: t) = [.unclosed (CodePoint.ofChar '%' :: t)] := by
  rcases t with _ | ⟨d, more⟩
  · exact .inl rfl
  have hd : d ≠ '%' := by
    rintro rfl
    exact h (.inl ⟨more, rfl⟩)
  by_cases hopen : d = '('
  · refine .inr ?_
    subst hopen
    simp only [pieces, ne_eq, not_true_eq_false, if_false, if_neg hd, if_true]
    split
    · rename_i name s after hcut
      refine if_neg ?_
      rintro ⟨hname, rfl⟩
      obtain ⟨hmore, hclose⟩ := Text.eq_of_cut?_eq_some hcut
      exact h (.inr ⟨name, after, hname, hclose, by rw [reference_append, hmore]⟩)
    · rfl
  · refine .inl ?_
    simp [pieces, hd, hopen]

/-! ## Following references -/

/-- The text of a piece of a value, with references followed on the given number of levels. -/
def pieceText (values : Text → Option Text) (option name value : Text) (depth : Nat) :
    Piece → Except InterpolationError Text
  | .literal t => .ok t
  | .reference reference =>
    match values reference.lower with
    | none => .error (.missing option name reference.lower value)
    | some v =>
      if v.contains ('%' : Char) then expand values option name value depth v else .ok v
  | .unclosed rest => .error (.unclosed rest)
  | .stray rest => .error (.stray rest)

theorem expand_succ (values : Text → Option Text) (option name value : Text) (depth : Nat)
    (t : Text) : expand values option name value (depth + 1) t =
      render (pieceText values option name value depth) (pieces t.length t) := by
  rw [expand]
  congr 1

theorem render_cons_eq_ok_iff {f : Piece → Except InterpolationError Text} {p : Piece}
    {ps : List Piece} :
    render f (p :: ps) = .ok u ↔ ∃ v w, f p = .ok v ∧ render f ps = .ok w ∧ u = v ++ w := by
  rw [render, bind_eq_ok_iff]
  simp only [bind_eq_ok_iff, pure, Except.pure, Except.ok.injEq]
  constructor
  · rintro ⟨v, hv, w, hw, rfl⟩
    exact ⟨v, w, hv, hw, rfl⟩
  · rintro ⟨v, w, hv, hw, rfl⟩
    exact ⟨v, hv, w, hw, rfl⟩

/-- The text of a reference is that of the option that it names. -/
theorem pieceText_reference_iff
    (ih : ∀ t u, expand values option name value depth t = .ok u ↔ Expands values depth t u)
    {reference w : Text} :
    pieceText values option name value depth (.reference reference) = .ok w ↔
      Refers values depth reference w := by
  rw [pieceText, Refers]
  cases values reference.lower with
  | none => simp
  | some v =>
    by_cases hmark : ('%' : CodePoint) ∈ v
    · simp [hmark, ih]
    · simp [hmark, eq_comm]

/-- Rendering the pieces of a value gives the text that it stands for. -/
theorem render_pieces_iff
    (ih : ∀ t u, expand values option name value depth t = .ok u ↔ Expands values depth t u)
    (fuel : Nat) (hfuel : t.length ≤ fuel) :
    render (pieceText values option name value depth) (pieces fuel t) = .ok u ↔
      Expands values (depth + 1) t u := by
  induction fuel generalizing t u with
  | zero =>
    obtain rfl := List.eq_nil_of_length_eq_zero (Nat.le_zero.1 hfuel)
    rw [expands_nil_iff]
    simp [pieces, render, eq_comm]
  | succ fuel next =>
    rcases t with _ | ⟨c, rest⟩
    · rw [expands_nil_iff]
      simp [pieces, render, eq_comm]
    have hrest : rest.length ≤ fuel := Nat.le_of_succ_le_succ hfuel
    by_cases hc : c = '%'
    · subst hc
      by_cases hstarts : StartsPart (CodePoint.ofChar '%' :: rest)
      · rcases hstarts with ⟨t, ht⟩ | ⟨name, t, hname, hclose, ht⟩
        · have hlength : t.length ≤ fuel := by
            have hcount := congrArg List.length ht
            simp only [doubled_append, List.length_cons] at hcount
            omega
          rw [ht, expands_percent_iff, pieces_doubled, render_cons_eq_ok_iff]
          simp [pieceText, next hlength]
        · have hlength : t.length ≤ fuel := by
            have hcount := congrArg List.length ht
            simp only [reference_append, List.length_cons, List.length_append] at hcount
            omega
          rw [ht, expands_reference_iff hname hclose, pieces_reference hname hclose,
            render_cons_eq_ok_iff]
          simp only [pieceText_reference_iff ih, next hlength]
      · refine iff_of_false ?_ fun h => hstarts (startsPart_of_expands h)
        rcases pieces_fault hstarts fuel with hpieces | hpieces <;>
          simp [hpieces, render_cons_eq_ok_iff, pieceText]
    · obtain ⟨s, t, hsplit, hs, hlength, hpieces⟩ := pieces_literal hc fuel rest
      rw [hpieces, hsplit, expands_literals_iff hs, render_cons_eq_ok_iff]
      simp [pieceText, next (hlength.trans hrest)]

/-- Following the references of a value gives the text that the value stands for. -/
theorem expand_eq_ok_iff :
    expand values option name value depth t = .ok u ↔ Expands values depth t u := by
  induction depth generalizing t u with
  | zero =>
    refine iff_of_false ?_ ?_
    · rintro ⟨⟩
    · rintro ⟨⟩
  | succ depth ih =>
    rw [expand_succ]
    exact render_pieces_iff (fun _ _ => ih) _ le_rfl

end Interpolation
end Signet
