import Mathlib
import Signet.Json.Document
import Signet.Proofs.Json.Plain
import Signet.Proofs.Json.Token
import Signet.Proofs.Text.Utf8

/-!
# Written documents read back

A written value without binary numbers is read back as its normal form. The statement is
about the beginning of a longer document, so the parts of arrays and objects are covered by
the same statement; the fuel of the reader is measured by the parts of the value, and the
length of the written form always suffices. The canonical bytes of a value are detected as
UTF-8 and decoded to the written form.
-/
namespace Signet
namespace Json

/-! ## Parts of a value -/

mutual

/-- The count of the parts of a value, items and members counted twice. -/
def parts : Json → Nat
  | .array items => 1 + itemParts items
  | .object members => 1 + memberParts members
  | _ => 1

/-- The count of the parts of items. -/
def itemParts : List Json → Nat
  | [] => 0
  | v :: rest => 1 + parts v + itemParts rest

/-- The count of the parts of members. -/
def memberParts : List (Text × Json) → Nat
  | [] => 0
  | (_, v) :: rest => 1 + parts v + memberParts rest

end

theorem memberParts_perm {a b : List (Text × Json)} (h : a.Perm b) :
    memberParts a = memberParts b := by
  have hsum (members : List (Text × Json)) :
      memberParts members = (members.map fun p => 1 + parts p.2).sum := by
    induction members with
    | nil => rfl
    | cons p rest ih => rw [memberParts, ih, List.map_cons, List.sum_cons]
  rw [hsum, hsum]
  exact (h.map _).sum_eq

theorem length_join_cons_cons (separator s t : Text) (rest : List Text) :
    (Text.join separator (s :: t :: rest)).length =
      s.length + separator.length + (Text.join separator (t :: rest)).length := by
  simp [Text.join, Nat.add_assoc]

theorem itemParts_le {items : List Json}
    (h : ∀ v ∈ items, parts v ≤ 2 * (write v).length) :
    itemParts items ≤ 2 * (Text.join "," (items.map write)).length + 1 := by
  induction items with
  | nil => simp [itemParts]
  | cons v rest ih =>
    have hv := h v (by simp)
    have hrest := ih fun w hw => h w (by simp [hw])
    rcases rest with _ | ⟨w, rest⟩
    · simp only [itemParts, List.map_cons, List.map_nil, Text.join]
      omega
    · have hcomma : ((",": Text)).length = 1 := rfl
      rw [itemParts, List.map_cons, List.map_cons, length_join_cons_cons, ← List.map_cons, hcomma]
      omega

theorem memberParts_le {members : List (Text × Json)}
    (h : ∀ p ∈ members, parts p.2 ≤ 2 * (write p.2).length) :
    memberParts members ≤
      2 * (joinMembers (members.map fun p => (p.1, write p.2))).length + 1 := by
  induction members with
  | nil => simp [memberParts]
  | cons p rest ih =>
    have hp := h p (by simp)
    have hrest := ih fun q hq => h q (by simp [hq])
    rcases rest with _ | ⟨q, rest⟩
    · simp only [memberParts, joinMembers, List.map_cons, List.map_nil, Text.join,
        List.length_append]
      omega
    · have hcomma : ((",": Text)).length = 1 := rfl
      simp only [joinMembers, List.map_cons] at hrest ⊢
      rw [memberParts, length_join_cons_cons, hcomma]
      simp only [List.length_append]
      omega

@[simp] theorem parts_null : parts .null = 1 := by rw [parts] <;> simp

@[simp] theorem parts_bool (b : Bool) : parts (.bool b) = 1 := by rw [parts] <;> simp

@[simp] theorem parts_int (n : Int) : parts (.int n) = 1 := by rw [parts] <;> simp

@[simp] theorem parts_text (t : Text) : parts (.text t) = 1 := by rw [parts] <;> simp

/-- A value has at most twice as many parts as its written form has characters. -/
theorem parts_le_length_write {v : Json} (hv : v.FloatFree) :
    parts v ≤ 2 * (write v).length := by
  induction hv with
  | null => simp [write, Text.ofString]
  | bool b => cases b <;> simp [write, Text.ofString]
  | int n =>
    have hlength := List.length_pos_iff.2 (Decimal.ofNat_ne_nil n.natAbs)
    rw [parts_int, write, Decimal.ofInt]
    split
    · rw [List.length_cons]
      omega
    · omega
  | text t =>
    rw [parts_text, write, Reader.writeText_eq, List.length_cons]
    omega
  | array _ ih =>
    have hitems := itemParts_le ih
    have hopen : (("[" : Text)).length = 1 := rfl
    have hclose : (("]" : Text)).length = 1 := rfl
    rw [parts, write_array, List.length_append, List.length_append]
    omega
  | @object members _ ih =>
    have hmembers := @memberParts_le (sortKeys members) fun p hp => ih p (mem_sortKeys.1 hp)
    rw [memberParts_perm (sortKeys_perm members)] at hmembers
    have hopen : (("\x7b" : Text)).length = 1 := rfl
    have hclose : (("\x7d" : Text)).length = 1 := rfl
    rw [parts, write_object, List.length_append, List.length_append]
    omega

/-! ## Reading values -/

/-- A written value starts with a character of ASCII that is neither white space nor a closing
bracket. -/
theorem write_eq_cons {v : Json} (hv : v.FloatFree) :
    ∃ c t, write v = c :: t ∧ Reader.isSpace c = false ∧ c ≠ ']' ∧ c.val < 0x80 := by
  cases hv with
  | null => exact ⟨_, _, rfl, by decide, by decide, by decide⟩
  | bool b => cases b <;> exact ⟨_, _, rfl, by decide, by decide, by decide⟩
  | text t => exact ⟨_, _, rfl, by decide, by decide, by decide⟩
  | array _ => exact ⟨_, _, write_array _, by decide, by decide, by decide⟩
  | object _ => exact ⟨_, _, write_object _, by decide, by decide, by decide⟩
  | int n =>
    by_cases hneg : n < 0
    · exact ⟨'-', Decimal.ofNat n.natAbs, by rw [write, Decimal.ofInt, if_pos hneg], by decide,
        by decide, by decide⟩
    · obtain ⟨c, digits, hcons⟩ := List.exists_cons_of_ne_nil (Decimal.ofNat_ne_nil n.natAbs)
      have hdigit : c.isAsciiDigit = true :=
        Decimal.isAsciiDigit_of_mem_ofNat (n := n.natAbs) (by simp [hcons])
      refine ⟨c, digits, by rw [write, Decimal.ofInt, if_neg hneg, hcons], ?_, ?_, ?_⟩
      · simp only [CodePoint.isAsciiDigit, Bool.and_eq_true, decide_eq_true_eq] at hdigit
        simp only [Reader.isSpace, Bool.or_eq_false_iff, beq_eq_false_iff_ne]
        omega
      · rintro rfl
        exact absurd hdigit (by decide)
      · simp only [CodePoint.isAsciiDigit, Bool.and_eq_true, decide_eq_true_eq] at hdigit
        omega

theorem skipSpace_write {v : Json} (hv : v.FloatFree) (rest : Text) :
    Reader.skipSpace (write v ++ rest) = write v ++ rest := by
  obtain ⟨c, t, hcons, hspace, -⟩ := write_eq_cons hv
  rw [hcons, Reader.skipSpace, List.cons_append, List.dropWhile_cons_of_neg (by simp [hspace])]

/-- The value is read from its written form at the beginning of a document. -/
def ReadsBack (v : Json) : Prop :=
  ∀ (fuel : Nat) (rest : Text), parts v ≤ fuel → Reader.Closes rest →
    Reader.value fuel (write v ++ rest) = .ok (normal v, rest)

/-- An integer is no name of a value. -/
theorem find?_names_ofInt (n : Int) (rest : Text) :
    Reader.names.find? (fun p => (Decimal.ofInt n ++ rest).startsWith p.1) = none := by
  obtain ⟨c, digits, hcons⟩ := List.exists_cons_of_ne_nil (Decimal.ofNat_ne_nil n.natAbs)
  have hdigit : c.isAsciiDigit = true :=
    Decimal.isAsciiDigit_of_mem_ofNat (n := n.natAbs) (by simp [hcons])
  have hne {d : CodePoint} (hd : d.isAsciiDigit = false) : d ≠ c := by
    rintro rfl
    simp [hd] at hdigit
  have hdiffers {d e : CodePoint} (h : d ≠ e) (name t : Text) :
      ¬ Text.startsWith (e :: t) (d :: name) = true := by
    simp [Text.startsWith, List.isPrefixOf, h]
  rw [List.find?_eq_none]
  by_cases hneg : n < 0
  · rw [Decimal.ofInt, if_pos hneg, hcons]
    intro p hp
    simp only [Reader.names, List.mem_cons, List.not_mem_nil, or_false] at hp
    rcases hp with rfl | rfl | rfl | rfl | rfl | rfl
    · exact hdiffers (by decide) _ _
    · exact hdiffers (by decide) _ _
    · exact hdiffers (by decide) _ _
    · exact hdiffers (by decide) _ _
    · exact hdiffers (by decide) _ _
    · -- The sign is the same, so the character behind it decides.
      have hsecond : ¬ Text.startsWith (c :: (digits ++ rest)) "Infinity" = true :=
        hdiffers (hne (by decide)) _ _
      exact hsecond
  · rw [Decimal.ofInt, if_neg hneg, hcons]
    intro p hp
    simp only [Reader.names, List.mem_cons, List.not_mem_nil, or_false] at hp
    rcases hp with rfl | rfl | rfl | rfl | rfl | rfl <;> exact hdiffers (hne (by decide)) _ _

/-- A written integer is read back. -/
theorem scalar_ofInt {n : Int} (h : numberFault? (.int n) = none) {rest : Text}
    (hrest : Reader.Closes rest) :
    Reader.scalar (Decimal.ofInt n ++ rest) = .ok (.int n, rest) := by
  have hfits : ¬ Decimal.maxDigits < Decimal.digitCount n.natAbs := by
    intro hlong
    simp [numberFault?, hlong] at h
  rw [Reader.scalar, find?_names_ofInt]
  exact Reader.number_ofInt hfits hrest

theorem join_cons_append (separator s : Text) (texts : List Text) (rest : Text) :
    ∃ more, Text.join separator (s :: texts) ++ rest = s ++ more := by
  rcases texts with _ | ⟨t, texts⟩
  · exact ⟨rest, rfl⟩
  · exact ⟨separator ++ Text.join separator (t :: texts) ++ rest, by simp [Text.join]⟩

/-- What stands behind one of several texts. -/
theorem join_comma_cons_cons (s t : Text) (texts : List Text) (rest : Text) :
    Text.join "," (s :: t :: texts) ++ rest =
      s ++ (',' : CodePoint) :: (Text.join "," (t :: texts) ++ rest) := by
  have hcomma : ("," : Text) = [CodePoint.ofChar ','] := rfl
  simp [Text.join, hcomma]

/-- Written items are read up to the closing bracket. -/
theorem items_write {v : Json} {items : List Json} (hread : ∀ w ∈ v :: items, ReadsBack w)
    (hfree : ∀ w ∈ v :: items, w.FloatFree) (fuel : Nat) (hfuel : itemParts (v :: items) ≤ fuel)
    (rest : Text) :
    Reader.items fuel (Text.join "," ((v :: items).map write) ++ (']' : CodePoint) :: rest) =
      .ok ((v :: items).map normal, rest) := by
  induction items generalizing v fuel with
  | nil =>
    rw [itemParts] at hfuel
    obtain ⟨fuel, rfl⟩ : ∃ n, fuel = n + 1 := ⟨fuel - 1, by omega⟩
    have hv := hread v (by simp) fuel _ (by omega) (Reader.closes_bracket rest)
    simp only [List.map_cons, List.map_nil, Text.join, Reader.items, hv]
    rfl
  | cons w items ih =>
    rw [itemParts] at hfuel
    obtain ⟨fuel, rfl⟩ : ∃ n, fuel = n + 1 := ⟨fuel - 1, by omega⟩
    have hrest := ih (v := w) (fun x hx => hread x (by simp [hx]))
      (fun x hx => hfree x (by simp [hx])) fuel (by omega)
    rw [List.map_cons] at hrest
    obtain ⟨more, hmore⟩ := join_cons_append "," (write w) (items.map write)
      ((']' : CodePoint) :: rest)
    have hspace : Reader.skipSpace
        (Text.join "," (write w :: items.map write) ++ (']' : CodePoint) :: rest) =
          Text.join "," (write w :: items.map write) ++ (']' : CodePoint) :: rest := by
      rw [hmore, skipSpace_write (hfree w (by simp))]
    have hv := hread v (by simp) fuel _ (by omega)
      (Reader.closes_comma
        (Text.join "," (write w :: items.map write) ++ (']' : CodePoint) :: rest))
    rw [List.map_cons, List.map_cons, join_comma_cons_cons, Reader.items, hv]
    have hcomma : Reader.skipSpace ((',' : CodePoint) ::
        (Text.join "," (write w :: items.map write) ++ (']' : CodePoint) :: rest)) =
          (',' : CodePoint) ::
            (Text.join "," (write w :: items.map write) ++ (']' : CodePoint) :: rest) := rfl
    have hnoclose : (some (CodePoint.ofChar ',') == some (CodePoint.ofChar ']')) = false := by
      decide
    simp only [hcomma, List.head?_cons, CodePoint.some_bind_ofChar, hnoclose, Bool.false_eq_true,
      if_false, beq_self_eq_true, if_true, List.drop_succ_cons, List.drop_zero, hspace, hrest]
    rfl

theorem skipSpace_of_closes {rest : Text} (h : Reader.Closes rest) :
    Reader.skipSpace rest = rest := by
  rcases h with rfl | ⟨c, more, rfl, rfl | rfl | rfl⟩ <;> rfl

/-- A written member, as it is joined to the others. -/
def memberText (key : Text) (v : Json) : Text := writeText key ++ ":" ++ write v

theorem memberText_append (key : Text) (v : Json) (rest : Text) :
    memberText key v ++ rest = writeText key ++ (':' : CodePoint) :: (write v ++ rest) := by
  have hcolon : (":" : Text) = [CodePoint.ofChar ':'] := rfl
  simp [memberText, hcolon]

theorem skipSpace_memberText (key : Text) (v : Json) (rest : Text) :
    Reader.skipSpace (memberText key v ++ rest) = memberText key v ++ rest := rfl

/-- One written member is read and set; what stands behind it decides how reading goes on. -/
theorem members_memberText {key : Text} {v : Json} (hv : ReadsBack v) (hfree : v.FloatFree)
    {fuel : Nat} (hfuel : parts v ≤ fuel) (before : Members) {rest : Text}
    (hrest : Reader.Closes rest) :
    Reader.members (fuel + 1) before (memberText key v ++ rest) =
      if rest.head? == some (CodePoint.ofChar '\x7d') then
        .ok (Assoc.put key (normal v) before, rest.drop 1)
      else if rest.head? == some (CodePoint.ofChar ',') then
        Reader.members fuel (Assoc.put key (normal v) before) (Reader.skipSpace (rest.drop 1))
      else .error (.malformed .commaExpected rest) := by
  have hquote : ((memberText key v ++ rest).head? != some (CodePoint.ofChar '"')) = false := rfl
  have htext := Reader.text_write key ((':' : CodePoint) :: (write v ++ rest))
  rw [← memberText_append] at htext
  have hcolon : Reader.skipSpace ((':' : CodePoint) :: (write v ++ rest)) =
      (':' : CodePoint) :: (write v ++ rest) := rfl
  have hnocolon : (some (CodePoint.ofChar ':') != some (CodePoint.ofChar ':')) = false := by decide
  simp only [Reader.members, CodePoint.some_bind_ofChar, hquote, Bool.false_eq_true, if_false,
    htext, hcolon, List.head?_cons, hnocolon, List.drop_succ_cons, List.drop_zero,
    skipSpace_write hfree, hv fuel rest hfuel hrest, skipSpace_of_closes hrest]

/-- Written members are read up to the closing brace and set one after the other. -/
theorem members_write {p : Text × Json} {ms : List (Text × Json)}
    (hread : ∀ q ∈ p :: ms, ReadsBack q.2) (hfree : ∀ q ∈ p :: ms, q.2.FloatFree) (fuel : Nat)
    (hfuel : memberParts (p :: ms) ≤ fuel) (before : Members) (rest : Text) :
    Reader.members fuel before
        (Text.join "," ((p :: ms).map fun q => memberText q.1 q.2) ++
          ('\x7d' : CodePoint) :: rest) =
      .ok (Assoc.putAll before ((p :: ms).map fun q => (q.1, normal q.2)), rest) := by
  induction ms generalizing p fuel before with
  | nil =>
    rw [memberParts] at hfuel
    obtain ⟨fuel, rfl⟩ : ∃ n, fuel = n + 1 := ⟨fuel - 1, by omega⟩
    rw [List.map_singleton, Text.join, members_memberText (hread p (by simp)) (hfree p (by simp))
      (by omega) before (Reader.closes_brace rest)]
    rfl
  | cons q ms ih =>
    rw [memberParts] at hfuel
    obtain ⟨fuel, rfl⟩ : ∃ n, fuel = n + 1 := ⟨fuel - 1, by omega⟩
    have hrest := ih (p := q) (fun x hx => hread x (by simp [hx]))
      (fun x hx => hfree x (by simp [hx])) fuel (by omega)
      (Assoc.put p.1 (normal p.2) before)
    rw [List.map_cons] at hrest
    obtain ⟨more, hmore⟩ := join_cons_append "," (memberText q.1 q.2)
      (ms.map fun q => memberText q.1 q.2) (('\x7d' : CodePoint) :: rest)
    have hnoclose : (some (CodePoint.ofChar ',') == some (CodePoint.ofChar '\x7d')) = false := by
      decide
    rw [List.map_cons, List.map_cons, join_comma_cons_cons,
      members_memberText (hread p (by simp)) (hfree p (by simp)) (by omega) before
        (Reader.closes_comma _)]
    simp only [List.head?_cons, hnoclose, Bool.false_eq_true, if_false, beq_self_eq_true, if_true,
      List.drop_succ_cons, List.drop_zero]
    rw [hmore, skipSpace_memberText, ← hmore, hrest]
    rfl

/-- A text that starts with neither a quotation mark nor an opening bracket is a scalar. -/
theorem value_eq_scalar {t : Text} {c : CodePoint} {rest : Text} (hcons : t = c :: rest)
    (hquote : c ≠ '"') (hbrace : c ≠ '\x7b') (hbracket : c ≠ '[') (fuel : Nat) :
    Reader.value (fuel + 1) t = Reader.scalar t := by
  subst hcons
  simp only [Reader.value, if_neg hquote, if_neg hbrace, if_neg hbracket]

/-- A written integer starts with a sign or a digit. -/
theorem ofInt_eq_cons (n : Int) :
    ∃ (c : CodePoint) (t : Text), Decimal.ofInt n = c :: t ∧ (c = '-' ∨ c.isAsciiDigit = true) := by
  obtain ⟨c, digits, hcons⟩ := List.exists_cons_of_ne_nil (Decimal.ofNat_ne_nil n.natAbs)
  by_cases hneg : n < 0
  · exact ⟨'-', _, by rw [Decimal.ofInt, if_pos hneg], .inl rfl⟩
  · refine ⟨c, digits, by rw [Decimal.ofInt, if_neg hneg, hcons], .inr ?_⟩
    exact Decimal.isAsciiDigit_of_mem_ofNat (n := n.natAbs) (by simp [hcons])

/-- Written items are no empty array. -/
theorem head?_join_write_ne {v : Json} (hv : v.FloatFree) (items : List Json) (rest : Text) :
    ((Text.join "," ((v :: items).map write) ++ rest).head? ==
      some (CodePoint.ofChar ']')) = false := by
  obtain ⟨more, hmore⟩ := join_cons_append "," (write v) (items.map write) rest
  obtain ⟨c, t, hcons, -, hne, -⟩ := write_eq_cons hv
  rw [List.map_cons, hmore, hcons]
  simpa using hne

/-- Every value without binary numbers that can be written is read back. -/
theorem readsBack {v : Json} (hv : v.FloatFree) (h : numberFault? v = none) : ReadsBack v := by
  induction hv with
  | null =>
    intro fuel rest hfuel _
    obtain ⟨fuel, rfl⟩ : ∃ n, fuel = n + 1 := ⟨fuel - 1, by simp at hfuel; omega⟩
    rfl
  | bool b =>
    intro fuel rest hfuel _
    obtain ⟨fuel, rfl⟩ : ∃ n, fuel = n + 1 := ⟨fuel - 1, by simp at hfuel; omega⟩
    cases b <;> rfl
  | int n =>
    intro fuel rest hfuel hrest
    obtain ⟨fuel, rfl⟩ : ∃ n, fuel = n + 1 := ⟨fuel - 1, by simp at hfuel; omega⟩
    obtain ⟨c, t, hcons, hc⟩ := ofInt_eq_cons n
    have hne {d : CodePoint} (hminus : d ≠ '-') (hd : d.isAsciiDigit = false) : c ≠ d := by
      rintro rfl
      rcases hc with hc | hc
      · exact hminus hc
      · simp [hd] at hc
    rw [write, value_eq_scalar (by rw [hcons, List.cons_append]) (hne (by decide) (by decide))
      (hne (by decide) (by decide)) (hne (by decide) (by decide)), scalar_ofInt h hrest, normal_int]
  | text t =>
    intro fuel rest hfuel _
    obtain ⟨fuel, rfl⟩ : ∃ n, fuel = n + 1 := ⟨fuel - 1, by simp at hfuel; omega⟩
    have htext := Reader.text_write t rest
    rw [write, normal_text]
    rw [Reader.writeText_eq, List.cons_append] at htext ⊢
    simp only [Reader.value, if_true, htext]
    rfl
  | @array items hfree ih =>
    intro fuel rest hfuel _
    rw [parts] at hfuel
    obtain ⟨fuel, rfl⟩ : ∃ n, fuel = n + 1 := ⟨fuel - 1, by omega⟩
    rw [numberFault?_array_eq_none_iff] at h
    rw [write_array, normal_array]
    rcases items with _ | ⟨v, items⟩
    · rfl
    · have hread := items_write (fun w hw => ih w hw (h w hw)) hfree fuel (by omega) rest
      have hfirst := hfree v (by simp)
      set inner : Text := Text.join "," ((v :: items).map write) ++ (']' : CodePoint) :: rest
        with hinner
      have hshape : "[" ++ Text.join "," ((v :: items).map write) ++ "]" ++ rest =
          ('[' : CodePoint) :: inner := by
        have hopen : ("[" : Text) = [CodePoint.ofChar '['] := rfl
        have hclose : ("]" : Text) = [CodePoint.ofChar ']'] := rfl
        simp [hinner, hopen, hclose]
      have hspace : Reader.skipSpace inner = inner := by
        obtain ⟨more, hmore⟩ := join_cons_append "," (write v) (items.map write)
          ((']' : CodePoint) :: rest)
        rw [hinner, List.map_cons, hmore, skipSpace_write hfirst]
      have hhead : (inner.head? == some (CodePoint.ofChar ']')) = false :=
        head?_join_write_ne hfirst items _
      have hquote : CodePoint.ofChar '[' ≠ '"' := by decide
      have hbrace : CodePoint.ofChar '[' ≠ '\x7b' := by decide
      rw [hshape]
      simp only [Reader.value, if_neg hquote, if_neg hbrace, if_true, hspace,
        CodePoint.some_bind_ofChar, hhead, Bool.false_eq_true, if_false, hread]
      rfl
  | @object members hfree ih =>
    intro fuel rest hfuel _
    rw [parts, ← memberParts_perm (sortKeys_perm members)] at hfuel
    obtain ⟨fuel, rfl⟩ : ∃ n, fuel = n + 1 := ⟨fuel - 1, by omega⟩
    rw [numberFault?_object_eq_none_iff] at h
    rw [write_object, normal_object]
    have hsorted (p : Text × Json) (hp : p ∈ sortKeys members) : p ∈ members := mem_sortKeys.1 hp
    rcases hmembers : sortKeys members with _ | ⟨p, ms⟩
    · rfl
    · rw [hmembers] at hfuel hsorted
      have hread := members_write (fun q hq => ih q (hsorted q hq) (h q (hsorted q hq)))
        (fun q hq => hfree q (hsorted q hq)) fuel (by omega) [] rest
      set inner : Text := Text.join "," ((p :: ms).map fun q => memberText q.1 q.2) ++
        ('\x7d' : CodePoint) :: rest with hinner
      have hshape : "\x7b" ++ joinMembers ((p :: ms).map fun q => (q.1, write q.2)) ++ "\x7d" ++
          rest = ('\x7b' : CodePoint) :: inner := by
        have hopen : ("\x7b" : Text) = [CodePoint.ofChar '\x7b'] := rfl
        have hclose : ("\x7d" : Text) = [CodePoint.ofChar '\x7d'] := rfl
        simp only [hinner, joinMembers, List.map_map]
        rw [hopen, hclose, List.append_assoc, List.append_assoc]
        rfl
      obtain ⟨more, hmore⟩ : ∃ more, inner = ('"' : CodePoint) :: more := by
        obtain ⟨more, hmore⟩ := join_cons_append "," (memberText p.1 p.2)
          (ms.map fun q => memberText q.1 q.2) (('\x7d' : CodePoint) :: rest)
        exact ⟨_, hmore⟩
      have hspace : Reader.skipSpace inner = inner := by
        rw [hmore]
        rfl
      have hhead : (inner.head? == some (CodePoint.ofChar '\x7d')) = false := by
        rw [hmore]
        rfl
      have hquote : CodePoint.ofChar '\x7b' ≠ '"' := by decide
      rw [hshape]
      simp only [Reader.value, if_neg hquote, if_true, hspace, CodePoint.some_bind_ofChar, hhead,
        Bool.false_eq_true, if_false, hread]
      rfl

/-! ## Documents -/

/-- A written value is a document that is read as the normal form of the value. -/
theorem read_write {v : Json} (hv : v.FloatFree) (h : numberFault? v = none) :
    read (write v) = .ok (normal v) := by
  have hfuel : parts v ≤ 2 * (write v).length + 2 := by
    have := parts_le_length_write hv
    omega
  have hvalue := readsBack hv h _ [] hfuel Reader.closes_nil
  have hspace := skipSpace_write hv []
  rw [List.append_nil] at hvalue hspace
  simp only [read, Reader.document, hspace, hvalue]
  rfl

/-- A character of ASCII at the beginning, with no zero byte next to it, shows UTF-8. -/
theorem detect_of_ascii {a : UInt8} (ha : a.toNat < 0x80) (ha' : a ≠ 0) {rest : Bytes}
    (hrest : ∀ b ∈ rest.head?, b ≠ 0) : detect (a :: rest) = (.utf8, 0) := by
  have hne {c : UInt8} (hc : 0x80 ≤ c.toNat) : (c == a) = false := by
    rw [beq_eq_false_iff_ne]
    rintro rfl
    omega
  have hzero : ((0 : UInt8) == a) = false := by simpa using ha'.symm
  have hFF : ((0xFF : UInt8) == a) = false := hne (by decide)
  have hFE : ((0xFE : UInt8) == a) = false := hne (by decide)
  have hEF : ((0xEF : UInt8) == a) = false := hne (by decide)
  simp only [detect, List.isPrefixOf, hFF, hzero, hFE, hEF, Bool.false_and, Bool.false_eq_true,
    if_false]
  rcases rest with _ | ⟨b, rest⟩
  · rfl
  have hb : b ≠ 0 := hrest b rfl
  rcases rest with _ | ⟨c, _ | ⟨d, rest⟩⟩ <;> simp [ha', hb]

/-- The canonical bytes of a value are detected as UTF-8. -/
theorem detect_write {v : Json} (hv : v.FloatFree) :
    detect ((write v).flatMap Utf8.encodeCodePoint) = (.utf8, 0) := by
  obtain ⟨c, t, hcons, -, -, hc⟩ := write_eq_cons hv
  have hprintable := hv.le_of_mem_write
  rw [hcons, List.forall_mem_cons] at hprintable
  obtain ⟨hc', ht⟩ := hprintable
  have hfirst : Utf8.encodeCodePoint c = [c.val.toUInt8] := by
    rw [Utf8.encodeCodePoint, if_pos hc]
  have hval : c.val.toUInt8.toNat = c.val := Utf8.toNat_toUInt8 (by omega)
  rw [hcons, List.flatMap_cons, hfirst, List.singleton_append]
  apply detect_of_ascii
  · omega
  · intro hzero
    rw [hzero] at hval
    have hzero : (0 : UInt8).toNat = 0 := rfl
    omega
  · intro b hb
    rcases t with _ | ⟨d, t⟩
    · cases hb
    · have hd : 0 < d.val := by
        have := ht d (by simp)
        omega
      obtain ⟨b', more, hbytes, hne⟩ := Utf8.encodeCodePoint_eq_cons hd
      rw [List.flatMap_cons, hbytes] at hb
      cases hb
      exact hne

/-- The canonical bytes of a value are read as its normal form. -/
theorem readBytes_canonical {v : Json} (hv : v.FloatFree) {bytes : Bytes}
    (h : canonical v = .ok bytes) : readBytes bytes = .ok (normal v) := by
  rw [canonical] at h
  split at h
  · cases h
  rename_i hfault
  cases hencode : Utf8.encode (write v) with
  | error e =>
    rw [hencode] at h
    cases h
  | ok encoded =>
    rw [hencode] at h
    cases h
    obtain ⟨hclean, rfl⟩ := Utf8.encode_eq_ok_iff.1 hencode
    have hdecode : decode ((write v).flatMap Utf8.encodeCodePoint) = .ok (write v) := by
      simp only [decode, detect_write hv, List.drop_zero]
      rw [Utf8.items_encode hclean, Utf8.joinSurrogates_chars, Utf8.strict_chars]
    simp only [readBytes, hdecode, read_write hv hfault]
    rfl

end Json
end Signet
