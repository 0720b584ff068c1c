import Mathlib
import Signet.Text.CodePoint

/-!
# Characters as code points

Laws of texts that are written with characters: how a character stands for a code point,
and how texts are cut at a mark that they do or do not hold.
-/
namespace Signet
namespace CodePoint

/-- A character that is looked for as an optional code point. -/
@[simp] theorem some_bind_ofChar (c : Char) :
    (do let a ← some c; pure (ofChar a) : Option CodePoint) = some (ofChar c) := rfl

theorem eq_ofChar_iff {c : CodePoint} {d : Char} : c = ofChar d ↔ c.val = d.toNat :=
  ⟨fun h => by rw [h, val_ofChar], fun h => ext (by rw [h, val_ofChar])⟩

theorem isSurrogate_eq_false_iff {c : CodePoint} :
    c.isSurrogate = false ↔ c.val < 0xD800 ∨ 0xDFFF < c.val := by
  simp only [isSurrogate, Bool.and_eq_false_iff, decide_eq_false_iff_not]
  omega

end CodePoint

namespace Text

/-- A mark of one character between two texts. -/
theorem append_mark {between : Text} {mark : CodePoint} (h : between = [mark]) (s t : Text) :
    s ++ between ++ t = s ++ mark :: t := by
  rw [h, List.append_assoc, List.singleton_append]

@[simp] theorem cut?_append_cons {t rest : Text} {mark : CodePoint} (h : mark ∉ t) :
    cut? (t ++ mark :: rest) mark = some (t, rest) := by
  induction t with
  | nil => simp [cut?]
  | cons c t ih =>
    have hc : c ≠ mark := fun e => h (by simp [e])
    have ht : mark ∉ t := fun e => h (by simp [e])
    simp [cut?, hc, ih ht]

theorem cut?_eq_none_iff {t : Text} {mark : CodePoint} : cut? t mark = none ↔ mark ∉ t := by
  induction t with
  | nil => simp [cut?]
  | cons c t ih =>
    by_cases hc : c = mark
    · simp [cut?, hc]
    · simp [cut?, hc, ih, Ne.symm hc]

/-- What a cut gives is put together to the text again, and the mark is not in the first part. -/
theorem eq_of_cut?_eq_some {t before after : Text} {mark : CodePoint}
    (h : cut? t mark = some (before, after)) : t = before ++ mark :: after ∧ mark ∉ before := by
  induction t generalizing before with
  | nil => simp [cut?] at h
  | cons c t ih =>
    by_cases hc : c = mark
    · simp only [cut?, hc, if_true, Option.some.injEq, Prod.mk.injEq] at h
      obtain ⟨rfl, rfl⟩ := h
      simp [hc]
    · simp only [cut?, if_neg hc, Option.map_eq_some_iff, Prod.mk.injEq] at h
      obtain ⟨⟨b, a⟩, hcut, rfl, rfl⟩ := h
      obtain ⟨rfl, hb⟩ := ih hcut
      simp [hb, Ne.symm hc]

/-- Cutting at the last mark gives the text again. -/
theorem eq_of_cutLast?_eq_some {t before after : Text} {mark : CodePoint}
    (h : cutLast? t mark = some (before, after)) : t = before ++ mark :: after := by
  induction t generalizing before with
  | nil => cases h
  | cons c t ih =>
    rw [cutLast?] at h
    split at h
    · rename_i p hp
      cases h
      rw [ih hp]
      rfl
    · split_ifs at h with hc
      cases h
      rw [hc]
      rfl

theorem cutLast?_eq_none {t : Text} {mark : CodePoint} (h : mark ∉ t) :
    cutLast? t mark = none := by
  induction t with
  | nil => rfl
  | cons c t ih =>
    have hc : c ≠ mark := fun e => h (by simp [e])
    have ht : mark ∉ t := fun e => h (by simp [e])
    simp [cutLast?, hc, ih ht]

theorem cutLast?_append_cons {t : Text} {mark : CodePoint} (s : Text) (h : mark ∉ t) :
    cutLast? (s ++ mark :: t) mark = some (s, t) := by
  induction s with
  | nil => simp [cutLast?, cutLast?_eq_none h]
  | cons c s ih => simp [cutLast?, ih]

/-- A text without the mark is one piece. -/
theorem split_of_not_mem {t : Text} {mark : CodePoint} (h : mark ∉ t) : split t mark = [t] := by
  induction t with
  | nil => rfl
  | cons c t ih =>
    have hc : c ≠ mark := fun e => h (by simp [e])
    have ht : mark ∉ t := fun e => h (by simp [e])
    simp [split, hc, ih ht]

theorem split_ne_nil (t : Text) (mark : CodePoint) : split t mark ≠ [] := by
  induction t with
  | nil => simp [split]
  | cons c t ih =>
    by_cases hc : c = mark
    · simp [split, hc]
    · rcases hs : split t mark with _ | ⟨piece, pieces⟩
      · exact absurd hs ih
      · simp [split, hc, hs]

/-- The pieces of two texts with a mark in between. -/
theorem split_append_cons (s t : Text) (mark : CodePoint) :
    split (s ++ mark :: t) mark = split s mark ++ split t mark := by
  induction s with
  | nil => simp [split]
  | cons c s ih =>
    by_cases hc : c = mark
    · simp [split, hc, ih]
    · rcases hs : split s mark with _ | ⟨piece, pieces⟩
      · exact absurd hs (split_ne_nil s mark)
      · simp [split, hc, ih, hs]

/-- The characters of a text are the mark and the characters of the pieces. -/
theorem eq_or_mem_split {t : Text} {c : CodePoint} (h : c ∈ t) (mark : CodePoint) :
    c = mark ∨ ∃ piece ∈ split t mark, c ∈ piece := by
  induction t with
  | nil => cases h
  | cons d t ih =>
    by_cases hd : d = mark
    · rcases List.mem_cons.1 h with rfl | h
      · exact .inl hd
      · rcases ih h with hc | ⟨piece, hpiece, hc⟩
        · exact .inl hc
        · exact .inr ⟨piece, by simp [split, hd, hpiece], hc⟩
    · rcases hs : split t mark with _ | ⟨first, pieces⟩
      · exact absurd hs (split_ne_nil t mark)
      · have hsplit : split (d :: t) mark = (d :: first) :: pieces := by simp [split, hd, hs]
        rw [hsplit]
        rcases List.mem_cons.1 h with rfl | h
        · exact .inr ⟨c :: first, by simp, by simp⟩
        · rcases ih h with hc | ⟨piece, hpiece, hc⟩
          · exact .inl hc
          · rw [hs, List.mem_cons] at hpiece
            rcases hpiece with rfl | hpiece
            · exact .inr ⟨d :: piece, by simp, by simp [hc]⟩
            · exact .inr ⟨piece, by simp [hpiece], hc⟩

/-- The characters of a piece are characters of the text. -/
theorem mem_of_mem_split {t piece : Text} {mark c : CodePoint} (hpiece : piece ∈ split t mark)
    (hc : c ∈ piece) : c ∈ t := by
  induction t generalizing piece with
  | nil =>
    obtain rfl := List.mem_singleton.1 hpiece
    exact hc
  | cons d t ih =>
    by_cases hd : d = mark
    · rw [split, if_pos hd] at hpiece
      rcases List.mem_cons.1 hpiece with rfl | hpiece
      · cases hc
      · exact List.mem_cons_of_mem d (ih hpiece hc)
    · rw [split, if_neg hd] at hpiece
      cases hs : split t mark with
      | nil => exact absurd hs (split_ne_nil t mark)
      | cons first pieces =>
        rw [hs, List.mem_cons] at hpiece
        rcases hpiece with rfl | hpiece
        · rcases List.mem_cons.1 hc with rfl | hc
          · exact List.mem_cons_self
          · exact List.mem_cons_of_mem d (ih (hs ▸ List.mem_cons_self) hc)
        · exact List.mem_cons_of_mem d (ih (hs ▸ List.mem_cons_of_mem first hpiece) hc)

/-- The pieces of a text with a separator in between are the text. -/
theorem join_split (t : Text) (mark : CodePoint) : join [mark] (split t mark) = t := by
  induction t with
  | nil => rfl
  | cons c t ih =>
    rcases hs : split t mark with _ | ⟨first, pieces⟩
    · exact absurd hs (split_ne_nil t mark)
    · rw [hs] at ih
      by_cases hc : c = mark
      · simp [split, hc, hs, join, ih]
      · rcases pieces with _ | ⟨second, pieces⟩
        · simpa [split, hc, hs, join] using ih
        · simpa [split, hc, hs, join] using ih

/-- Characters other than the mark can be left out before or after splitting. -/
theorem split_filter {p : CodePoint → Bool} {mark : CodePoint} (h : p mark = true) (t : Text) :
    split (t.filter p) mark = (split t mark).map fun piece => piece.filter p := by
  induction t with
  | nil => rfl
  | cons c t ih =>
    by_cases hc : c = mark
    · subst hc
      simp [split, h, ih]
    · rcases hs : split t mark with _ | ⟨first, pieces⟩
      · exact absurd hs (split_ne_nil t mark)
      · rw [hs, List.map_cons] at ih
        by_cases hp : p c = true
        · simp [split, hc, hs, hp, ih]
        · simp [split, hc, hs, hp, ih]

end Text
end Signet
