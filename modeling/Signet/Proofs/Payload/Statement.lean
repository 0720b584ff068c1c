import Mathlib
import Signet.Payload.Statement
import Signet.Proofs.Exchange.Checks

/-!
# Statements that are accepted

Accepting a statement is a promise about the types of its parts. The attributes of a statement have
their types, and each of its subjects is an object that is identified. The properties of a subject
are looked at only if they are not blank, so in the place of each of them a blank value of any type
passes: the promise is kept by exactly the accepted statements in which no such value stands.

## Main definitions

* `Statement.Declared key v` — the value has the type that a property of subjects is declared with.
* `Statement.SubjectConforms`, `Statement.Conforms` — a subject and a statement have the declared
  types, as far as the values of properties count.
* `Statement.Blanked` — a subject has a blank value of another type than the declared one.
-/
namespace Signet

namespace Json

theorem hasShape_text_iff {v : Json} : v.hasShape .text = true ↔ ∃ t, v = .text t := by
  cases v <;> simp [hasShape]

theorem hasShape_object_iff {v : Json} :
    v.hasShape .object = true ↔ ∃ members, v = .object members := by
  cases v <;> simp [hasShape]

end Json

namespace Statement

variable {statement subject : Json.Members} {key : Text} {valid : Json → Bool} {v : Json}

/-! ## Declared types -/

/-- The properties of subjects that are texts. -/
def textProperties : List Text := ["uri", "content", "name", "downloadLocation", "mediaType"]

/-- The properties that identify a subject. -/
def identifyingProperties : List Text := ["uri", "content", "digest"]

/-- The value maps known algorithms to texts. -/
def MapsAlgorithms (v : Json) : Prop :=
  ∃ members, v = .object members ∧ ∀ p ∈ members, p.1 ∈ digestAlgorithms ∧ ∃ t, p.2 = .text t

/-- The value has the type that the property of a subject is declared with. Members that are not
declared may have any value. -/
structure Declared (key : Text) (v : Json) : Prop where
  text : key ∈ textProperties → ∃ t, v = .text t
  digest : key = "digest" → MapsAlgorithms v
  annotations : key = "annotations" → ∃ members, v = .object members

/-- The subject has a location, a content or digests, which are not empty. -/
def Identified (subject : Json.Members) : Prop :=
  ∃ key ∈ identifyingProperties, ∃ v, subject.get? key = some v ∧ v.isBlank = false ∧ Declared key v

/-- A subject is an object that is identified, and the values of its properties that count have the
declared types. -/
def SubjectConforms (Counts : Json → Prop) (v : Json) : Prop :=
  ∃ subject : Json.Members, v = .object subject ∧ Identified subject ∧
    ∀ key v, subject.get? key = some v → Counts v → Declared key v

/-- A statement has the declared types, as far as the values of properties count. -/
structure Conforms (Counts : Json → Prop) (statement : Json.Members) : Prop where
  type : statement.get? "_type" = some (.text typeName)
  subjects : ∃ subjects, statement.get? "subject" = some (.array subjects) ∧
    ∀ v ∈ subjects, SubjectConforms Counts v
  predicateType : ∃ t, statement.get? "predicateType" = some (.text t)
  predicate : ∀ v, statement.get? "predicate" = some v → v ≠ .null → ∃ members, v = .object members

/-- A property of a subject has a blank value that is neither null nor of the declared type. -/
def Blanked (statement : Json.Members) : Prop :=
  ∃ (subjects : List Json) (subject : Json.Members) (key : Text) (v : Json),
    statement.get? "subject" = some (.array subjects) ∧ .object subject ∈ subjects ∧
      subject.get? key = some v ∧ v.isBlank = true ∧ v ≠ .null ∧ ¬ Declared key v

/-! ## Properties -/

/-- The subject has a value of the property that is not blank. -/
def Present (subject : Json.Members) (key : Text) : Prop :=
  ∃ v, subject.get? key = some v ∧ v.isBlank = false

/-- A property is valid or blank, and it is present if it is not blank. -/
theorem property_eq_ok_iff {present : Bool} :
    property subject key valid = .ok present ↔
      (∀ v, subject.get? key = some v → v.isBlank = false → valid v = true) ∧
        (present = true ↔ Present subject key) := by
  rw [property, Present]
  cases hmember : subject.get? key with
  | none => cases present <;> simp
  | some v =>
    cases hblank : v.isBlank with
    | true => cases present <;> simp [hblank]
    | false =>
      cases hvalid : valid v <;> cases present <;> simp [hblank, hvalid]

theorem isDigestSet_iff : isDigestSet v = true ↔ MapsAlgorithms v := by
  rw [isDigestSet, MapsAlgorithms]
  cases v <;> simp [Json.members?, Json.hasShape_text_iff]

/-! ## Subjects -/

/-- The type of a property that is a text is decided by its shape. -/
theorem declared_text_iff (h : key ∈ textProperties) :
    Declared key v ↔ v.hasShape .text = true := by
  rw [Json.hasShape_text_iff]
  constructor
  · intro hv
    exact hv.text h
  · intro hv
    refine ⟨fun _ => hv, ?_, ?_⟩
    · rintro rfl
      exact absurd h (by decide)
    · rintro rfl
      exact absurd h (by decide)

theorem declared_digest_iff : Declared "digest" v ↔ isDigestSet v = true := by
  rw [isDigestSet_iff]
  constructor
  · intro hv
    exact hv.digest rfl
  · intro hv
    exact ⟨fun h => absurd h (by decide), fun _ => hv, fun h => absurd h (by decide)⟩

theorem declared_annotations_iff : Declared "annotations" v ↔ v.hasShape .object = true := by
  rw [Json.hasShape_object_iff]
  constructor
  · intro hv
    exact hv.annotations rfl
  · intro hv
    exact ⟨fun h => absurd h (by decide), fun h => absurd h (by decide), fun _ => hv⟩

/-- The values of a property that are not blank have the declared type. -/
def Typed (subject : Json.Members) (key : Text) : Prop :=
  ∀ v, subject.get? key = some v → v.isBlank = false → Declared key v

/-- A property whose values are checked for their declared type. -/
theorem property_eq_ok_iff_typed (h : ∀ v, Declared key v ↔ valid v = true) {present : Bool} :
    property subject key valid = .ok present ↔
      Typed subject key ∧ (present = true ↔ Present subject key) := by
  simp only [property_eq_ok_iff, Typed, h]

theorem property_text_eq_ok_iff (h : key ∈ textProperties) {present : Bool} :
    property subject key (Json.hasShape .text) = .ok present ↔
      Typed subject key ∧ (present = true ↔ Present subject key) :=
  property_eq_ok_iff_typed fun _ => declared_text_iff h

theorem property_digest_eq_ok_iff {present : Bool} :
    property subject "digest" isDigestSet = .ok present ↔
      Typed subject "digest" ∧ (present = true ↔ Present subject "digest") :=
  property_eq_ok_iff_typed fun _ => declared_digest_iff

theorem property_annotations_eq_ok_iff {present : Bool} :
    property subject "annotations" (Json.hasShape .object) = .ok present ↔
      Typed subject "annotations" ∧ (present = true ↔ Present subject "annotations") :=
  property_eq_ok_iff_typed fun _ => declared_annotations_iff

/-- All properties that are declared are checked. -/
theorem forall_typed_iff :
    (∀ key, Typed subject key) ↔
      (∀ key ∈ textProperties, Typed subject key) ∧ Typed subject "digest" ∧
        Typed subject "annotations" := by
  constructor
  · intro h
    exact ⟨fun key _ => h key, h "digest", h "annotations"⟩
  · rintro ⟨htext, hdigest, hannotations⟩ key v hv hblank
    refine ⟨fun hkey => (htext key hkey v hv hblank).text hkey, ?_, ?_⟩
    · rintro rfl
      exact (hdigest v hv hblank).digest rfl
    · rintro rfl
      exact (hannotations v hv hblank).annotations rfl

/-- Among values of the declared types, the one that identifies a subject is a present one. -/
theorem identified_iff (h : ∀ key, Typed subject key) :
    Identified subject ↔ ∃ key ∈ identifyingProperties, Present subject key := by
  constructor
  · rintro ⟨key, hkey, v, hv, hblank, -⟩
    exact ⟨key, hkey, v, hv, hblank⟩
  · rintro ⟨key, hkey, v, hv, hblank⟩
    exact ⟨key, hkey, v, hv, hblank, h key v hv hblank⟩

theorem exists_present_iff :
    (∃ key ∈ identifyingProperties, Present subject key) ↔
      Present subject "uri" ∨ Present subject "content" ∨ Present subject "digest" := by
  simp [identifyingProperties]

open Classical in
/-- The checks of a subject, one after the other. -/
theorem checkSubject_object_eq_ok_iff :
    checkSubject (.object subject) = .ok () ↔
      (∀ key, Typed subject key) ∧ ∃ key ∈ identifyingProperties, Present subject key := by
  rw [exists_present_iff]
  simp only [checkSubject, Json.members?, bind_eq_ok_iff]
  constructor
  · rintro ⟨location, hlocation, content, hcontent, digest, hdigest, h⟩
    rw [property_text_eq_ok_iff (by decide)] at hlocation hcontent
    rw [property_digest_eq_ok_iff] at hdigest
    by_cases hany : (location || content || digest) = true
    · simp only [hany, Bool.not_true, Bool.false_eq_true, if_false, bind_eq_ok_iff] at h
      obtain ⟨_, hname, _, hdownload, _, htype, _, hannotations, -⟩ := h
      rw [property_text_eq_ok_iff (by decide)] at hname hdownload htype
      rw [property_annotations_eq_ok_iff] at hannotations
      refine ⟨forall_typed_iff.2 ⟨?_, hdigest.1, hannotations.1⟩, ?_⟩
      · simp only [textProperties, List.forall_mem_cons]
        exact ⟨hlocation.1, hcontent.1, hname.1, hdownload.1, htype.1, by simp⟩
      · simpa only [Bool.or_eq_true, hlocation.2, hcontent.2, hdigest.2, or_assoc] using hany
    · simp only [hany, Bool.not_false, if_true] at h
      cases h
  · rintro ⟨htyped, hpresent⟩
    have htext {key : Text} (hkey : key ∈ textProperties) :
        property subject key (Json.hasShape .text) = .ok (decide (Present subject key)) :=
      (property_text_eq_ok_iff hkey).2 ⟨htyped key, decide_eq_true_iff⟩
    have hdigest : property subject "digest" isDigestSet = .ok (decide (Present subject "digest")) :=
      property_digest_eq_ok_iff.2 ⟨htyped _, decide_eq_true_iff⟩
    have hannotations : property subject "annotations" (Json.hasShape .object) =
        .ok (decide (Present subject "annotations")) :=
      property_annotations_eq_ok_iff.2 ⟨htyped _, decide_eq_true_iff⟩
    have hany : (decide (Present subject "uri") || decide (Present subject "content") ||
        decide (Present subject "digest")) = true := by
      simpa only [Bool.or_eq_true, decide_eq_true_iff, or_assoc] using hpresent
    refine ⟨_, htext (by decide), _, htext (by decide), _, hdigest, ?_⟩
    simp only [hany, Bool.not_true, Bool.false_eq_true, if_false, bind_eq_ok_iff]
    exact ⟨_, htext (by decide), _, htext (by decide), _, htext (by decide), _, hannotations, rfl⟩

/-- A subject is accepted if it conforms in all values that are not blank. -/
theorem checkSubject_eq_ok_iff :
    checkSubject v = .ok () ↔ SubjectConforms (fun v => v.isBlank = false) v := by
  cases v with
  | object members =>
    rw [checkSubject_object_eq_ok_iff]
    constructor
    · rintro ⟨htyped, hpresent⟩
      exact ⟨members, rfl, (identified_iff htyped).2 hpresent, htyped⟩
    · rintro ⟨_, heq, hidentified, htyped⟩
      cases heq
      exact ⟨htyped, (identified_iff htyped).1 hidentified⟩
  | null | bool _ | int _ | float _ | text _ | array _ =>
    simp [checkSubject, Json.members?, SubjectConforms]

/-! ## Statements -/

theorem required_eq_ok_iff :
    required statement key = .ok v ↔ statement.get? key = some v ∧ v ≠ .null := by
  rw [required]
  split
  · rename_i hnone
    simp [hnone]
  · rename_i hnull
    rw [hnull]
    constructor
    · intro h
      cases h
    · rintro ⟨h, hv⟩
      exact absurd (Option.some.inj h).symm hv
  · rename_i w hnotNull hw
    rw [hw, Except.ok.injEq, Option.some.injEq]
    constructor
    · rintro rfl
      exact ⟨rfl, hnotNull⟩
    · exact And.left

/-- The last checks of a statement: a predicate type, and a predicate unless it is left out. -/
theorem predicate_eq_ok_iff :
    (do
      let predicateType ← required statement "predicateType"
      if !predicateType.hasShape .text then throw .predicateTypeNotText
      match statement.get? "predicate" with
      | none | some .null | some (.object _) => pure ()
      | some _ => throw .predicateNotObject : Except StatementError Unit) = .ok () ↔
    (∃ t, statement.get? "predicateType" = some (.text t)) ∧
      ∀ v, statement.get? "predicate" = some v → v ≠ .null → ∃ members, v = .object members := by
  have hpredicate : (match statement.get? "predicate" with
      | none | some .null | some (.object _) => pure ()
      | some _ => throw .predicateNotObject : Except StatementError Unit) = .ok () ↔
      ∀ v, statement.get? "predicate" = some v → v ≠ .null → ∃ members, v = .object members := by
    cases statement.get? "predicate" with
    | none => simp [pure, Except.pure]
    | some v => cases v <;> simp [pure, Except.pure, throw, throwThe, MonadExceptOf.throw]
  simp only [bind_eq_ok_iff, required_eq_ok_iff, ite_throw_eq_ok_iff, hpredicate]
  constructor
  · rintro ⟨v, ⟨hv, -⟩, hshape, h⟩
    obtain ⟨t, rfl⟩ := Json.hasShape_text_iff.1 (by simpa using hshape)
    exact ⟨⟨t, hv⟩, h⟩
  · rintro ⟨⟨t, ht⟩, h⟩
    exact ⟨.text t, ⟨ht, by simp⟩, by simp [Json.hasShape], h⟩

/-- A statement is accepted if it conforms in all values that are not blank. -/
theorem check_eq_ok_iff :
    check statement = .ok () ↔ Conforms (fun v => v.isBlank = false) statement := by
  simp only [check, bind_eq_ok_iff, required_eq_ok_iff, ite_throw_eq_ok_iff]
  constructor
  · rintro ⟨type, ⟨htype, -⟩, hname, subjects, ⟨hsubjects, -⟩, h⟩
    cases subjects with
    | array items =>
      obtain ⟨u, hitems, hrest⟩ := bind_eq_ok_iff.1 h
      obtain ⟨hpredicateType, hpredicate⟩ := predicate_eq_ok_iff.1 hrest
      rw [forM_eq_ok_iff] at hitems
      rw [not_not] at hname
      have htext : type = .text typeName := by
        cases type <;> simp_all [Json.text?]
      refine ⟨htext ▸ htype, ⟨items, hsubjects, ?_⟩, hpredicateType, hpredicate⟩
      exact fun v hv => checkSubject_eq_ok_iff.1 (hitems v hv)
    | null | bool _ | int _ | float _ | text _ | object _ => cases h
  · rintro ⟨htype, ⟨items, hsubjects, hitems⟩, hpredicateType, hpredicate⟩
    refine ⟨.text typeName, ⟨htype, by simp⟩, by simp [Json.text?], .array items,
      ⟨hsubjects, by simp⟩, ?_⟩
    refine bind_eq_ok_iff.2 ⟨(), ?_, predicate_eq_ok_iff.2 ⟨hpredicateType, hpredicate⟩⟩
    rw [forM_eq_ok_iff]
    exact fun v hv => checkSubject_eq_ok_iff.2 (hitems v hv)

/-! ## What the acceptance promises -/

/-- Null is blank, so a statement that conforms in all values but null is accepted. -/
theorem Conforms.mono {Counts Counts' : Json → Prop} (h : Conforms Counts statement)
    (himp : ∀ v, Counts' v → Counts v) : Conforms Counts' statement := by
  obtain ⟨subjects, hsubjects, hall⟩ := h.subjects
  refine ⟨h.type, ⟨subjects, hsubjects, ?_⟩, h.predicateType, h.predicate⟩
  intro v hv
  obtain ⟨subject, heq, hidentified, htyped⟩ := hall v hv
  exact ⟨subject, heq, hidentified,
    fun key v hmember hcounts => htyped key v hmember (himp v hcounts)⟩

theorem ne_null_of_isBlank (h : v.isBlank = false) : v ≠ .null := by
  intro hnull
  rw [hnull] at h
  cases h

/-- Blank values of other types are not there if all values but null have the declared types. -/
theorem Conforms.not_blanked (h : Conforms (· ≠ .null) statement) : ¬ Blanked statement := by
  intro hblanked
  obtain ⟨subjects, subject, key, v, hsubjects, hmem, hmember, -, hnull, hdeclared⟩ := hblanked
  obtain ⟨subjects', hsubjects', hall⟩ := h.subjects
  rw [hsubjects'] at hsubjects
  cases hsubjects
  obtain ⟨subject', heq, -, htyped⟩ := hall _ hmem
  cases heq
  exact hdeclared (htyped key v hmember hnull)

/-- Without blank values of other types, it makes no difference whether those count. -/
theorem Conforms.of_not_blanked (h : Conforms (fun v => v.isBlank = false) statement)
    (hblanked : ¬ Blanked statement) : Conforms (· ≠ .null) statement := by
  obtain ⟨subjects, hsubjects, hall⟩ := h.subjects
  refine ⟨h.type, ⟨subjects, hsubjects, ?_⟩, h.predicateType, h.predicate⟩
  intro v hv
  obtain ⟨subject, rfl, hidentified, htyped⟩ := hall v hv
  refine ⟨subject, rfl, hidentified, ?_⟩
  intro key w hmember hnull
  cases hblank : w.isBlank with
  | false => exact htyped key w hmember hblank
  | true =>
    by_contra hdeclared
    exact hblanked ⟨subjects, subject, key, w, hsubjects, hv, hmember, hblank, hnull, hdeclared⟩

/-- A statement is accepted exactly if its attributes have their types, and each subject is an
identified object in which every declared property that is not blank has its type. So acceptance
promises the declared types of all values but null exactly if no subject has another blank value in
the place of a property of another type. -/
theorem declared_types_iff (statement : Json.Members) :
    (check statement = .ok () ↔ Conforms (fun v => v.isBlank = false) statement) ∧
      (Conforms (· ≠ .null) statement ↔ check statement = .ok () ∧ ¬ Blanked statement) := by
  refine ⟨check_eq_ok_iff, ?_⟩
  rw [check_eq_ok_iff]
  constructor
  · intro h
    exact ⟨h.mono fun v => ne_null_of_isBlank, h.not_blanked⟩
  · intro h
    exact h.1.of_not_blanked h.2

/-- A statement about a subject whose name is zero. -/
def zeroNamed : Json.Members :=
  [("_type", .text typeName), ("subject", .array [.object [("uri", "u"), ("name", .int 0)]]),
   ("predicateType", "p")]

/-- A name that is no text is accepted if it is blank. -/
theorem blank_name_accepted :
    ¬ ∀ statement, check statement = .ok () → Conforms (· ≠ .null) statement := by
  intro h
  have hcheck : check zeroNamed = .ok () := by decide +kernel
  obtain ⟨subjects, hsubjects, hall⟩ := (h zeroNamed hcheck).subjects
  cases hsubjects
  obtain ⟨subject, heq, -, htyped⟩ := hall _ (List.mem_singleton_self _)
  cases heq
  obtain ⟨t, ht⟩ := (htyped "name" (.int 0) rfl (by simp)).text (by decide)
  cases ht

end Statement
end Signet
