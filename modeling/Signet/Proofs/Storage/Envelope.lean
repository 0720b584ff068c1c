import Mathlib
import Signet.Proofs.Bytes.Base64
import Signet.Proofs.Json.Canonical
import Signet.Storage.Build

/-!
# Envelopes

An envelope wraps the canonical bytes of a statement in base64, next to the signature as text.
Base64 is ASCII and lenient decoding leaves no surrogate, so the envelope itself can always be
written: only the statement can keep it from being built, and each layer is undone by reading.

## Main definitions

* `Envelope.StatesType members` — the members state no predicate type, or one that is a text.
* `Envelope.Carries e members signature` — what is read from an envelope.
-/
namespace Signet

namespace Envelope

open Json

variable {payload : Payload} {material : Material} {members : Json.Members} {e : Envelope}

/-! ## The statement -/

/-- A predicate type is not stated, or it is a text. -/
def StatesType (members : Json.Members) : Prop :=
  ∀ v, members.get? "predicateType" = some v → ∃ t, v = .text t

/-- The predicate type of a statement, empty if it states none. -/
theorem predicateType?_eq_some_iff {t : Text} :
    predicateType? (.json (.object members)) = some t ↔
      members.get? "predicateType" = none ∧ t = [] ∨
        members.get? "predicateType" = some (.text t) := by
  rw [predicateType?]
  cases hmember : members.get? "predicateType" with
  | none => simp [eq_comm]
  | some v => cases v <;> simp [Json.text?]

theorem exists_predicateType?_iff :
    (∃ t, predicateType? (.json (.object members)) = some t) ↔ StatesType members := by
  simp only [predicateType?_eq_some_iff, StatesType]
  cases hmember : members.get? "predicateType" with
  | none => simp
  | some v => cases v <;> simp

/-- What is no object has no predicate type. -/
theorem exists_members_of_predicateType? {t : Text} (h : predicateType? payload = some t) :
    ∃ members, payload = .json (.object members) := by
  unfold predicateType? at h
  split at h
  · exact ⟨_, rfl⟩
  · cases h

/-! ## The envelope as a value -/

theorem plain_toJson (bytes signature : Bytes) :
    (toJson (Base64.encode bytes) signature).Plain := by
  have hsignature : (Utf8.decodeLenient signature).Clean :=
    fun c hc => Utf8.isSurrogate_of_mem_decodeLenient hc
  have hentry : (Json.object [("keyid", ""), ("sig", .text (Utf8.decodeLenient signature))]).Plain := by
    apply Plain.object
    · simp only [List.forall_mem_cons]
      exact ⟨by decide, by decide, by simp⟩
    · simp only [List.forall_mem_cons]
      exact ⟨.text (by decide), .text hsignature, by simp⟩
  apply Plain.object
  · simp only [List.forall_mem_cons]
    exact ⟨by decide, by decide, by decide, by simp⟩
  · simp only [List.forall_mem_cons]
    exact ⟨.text (by decide), .text (Text.clean_of_ascii (Base64.val_of_mem_encode bytes)), .array (by simpa using hentry),
      by simp⟩

theorem uniqueKeys_toJson (payload : Text) (signature : Bytes) :
    (toJson payload signature).UniqueKeys := by
  have hentry : (Json.object [("keyid", ""),
      ("sig", .text (Utf8.decodeLenient signature))]).UniqueKeys := by
    apply UniqueKeys.object
    · exact (by decide : [("keyid" : Text), "sig"].Nodup)
    · simp only [List.forall_mem_cons]
      exact ⟨.text _, .text _, by simp⟩
  apply UniqueKeys.object
  · exact (by decide : [("payloadType" : Text), "payload", "signatures"].Nodup)
  · simp only [List.forall_mem_cons]
    exact ⟨.text _, .text _, .array (by simpa using hentry), by simp⟩

/-- The envelope as it is read: its members come in the order of their keys. -/
def readForm (payload : Text) (signature : Bytes) : Json :=
  .object
    [("payload", .text payload), ("payloadType", .text MediaType.statement),
     ("signatures", .array
      [.object [("keyid", ""), ("sig", .text (Utf8.decodeLenient signature))]])]

theorem normal_toJson (payload : Text) (signature : Bytes) :
    (toJson payload signature).normal = readForm payload signature := rfl

/-- The envelope of any bytes and any signature can be written, and is read back. -/
theorem canonical_toJson (bytes signature : Bytes) :
    ∃ data, (toJson (Base64.encode bytes) signature).canonical = .ok data ∧
      readBytes data = .ok (readForm (Base64.encode bytes) signature) := by
  obtain ⟨data, hdata, hread, -⟩ :=
    (plain_toJson bytes signature).readBytes_canonical (uniqueKeys_toJson _ signature)
  rw [normal_toJson] at hread
  exact ⟨data, hdata, hread⟩

/-! ## Building -/

/-- What an envelope is built of: the predicate type and the canonical bytes of an object. -/
structure BuiltFrom (e : Envelope) (members : Json.Members) (signature bytes : Bytes) : Prop where
  predicateType : predicateType? (.json (.object members)) = some e.predicateType
  statement : (Json.object members).canonical = .ok bytes
  data : (toJson (Base64.encode bytes) signature).canonical = .ok e.data

/-- Building succeeds on objects with a fitting predicate type that can be written. Otherwise it
fails at the statement, never at the envelope. -/
theorem build_cases (payload : Payload) (material : Material) :
    (∃ e members bytes, build payload material = .ok e ∧ payload = .json (.object members) ∧
      BuiltFrom e members material.signature bytes) ∨
    ∃ cause, build payload material = .error ⟨.marshalingStatement, cause⟩ ∧
      ∀ members, payload = .json (.object members) → StatesType members →
        ¬ (Json.object members).Writable := by
  cases htype : predicateType? payload with
  | none =>
    refine .inr ⟨.invalidPredicateType, ?_, ?_⟩
    · unfold build
      rw [htype]
    · intro members hpayload hstates
      obtain ⟨t, ht⟩ := exists_predicateType?_iff.2 hstates
      rw [hpayload, ht] at htype
      cases htype
  | some t =>
    obtain ⟨members, rfl⟩ := exists_members_of_predicateType? htype
    cases hstatement : (Json.object members).canonical with
    | error fault =>
      refine .inr ⟨.unwritable fault, ?_, ?_⟩
      · simp only [build, htype, encodePayload, hstatement]
        rfl
      · intro members' hpayload _ hwritable
        cases hpayload
        obtain ⟨bytes, hbytes⟩ := canonical_eq_ok_iff.2 hwritable
        rw [hstatement] at hbytes
        cases hbytes
    | ok bytes =>
      obtain ⟨data, hdata, -⟩ := canonical_toJson bytes material.signature
      refine .inl ⟨⟨data, t⟩, members, bytes, ?_, rfl, ⟨htype, hstatement, hdata⟩⟩
      simp only [build, htype, encodePayload, hstatement, Except.map, Except.mapError, bind,
        Except.bind, hdata]
      rfl

/-- A success has its parts. -/
theorem BuiltFrom.of_build (h : build (.json (.object members)) material = .ok e) :
    ∃ bytes, BuiltFrom e members material.signature bytes := by
  rcases build_cases (.json (.object members)) material with hok | herror
  · obtain ⟨e', members', bytes, hbuild, hpayload, hfrom⟩ := hok
    rw [hbuild] at h
    cases h
    cases hpayload
    exact ⟨bytes, hfrom⟩
  · obtain ⟨cause, hbuild, -⟩ := herror
    rw [hbuild] at h
    cases h

/-- Building succeeds exactly on objects that state a predicate type as a text or none, and that
can be written. -/
theorem build_eq_ok_iff : (∃ e, build payload material = .ok e) ↔
    ∃ members, payload = .json (.object members) ∧ StatesType members ∧
      (Json.object members).Writable := by
  constructor
  · intro h
    obtain ⟨e, h⟩ := h
    rcases build_cases payload material with hok | herror
    · obtain ⟨e', members, bytes, -, hpayload, hfrom⟩ := hok
      exact ⟨members, hpayload, exists_predicateType?_iff.1 ⟨_, hfrom.predicateType⟩,
        canonical_eq_ok_iff.1 ⟨bytes, hfrom.statement⟩⟩
    · obtain ⟨cause, hbuild, -⟩ := herror
      rw [hbuild] at h
      cases h
  · intro h
    obtain ⟨members, hpayload, hstates, hwritable⟩ := h
    rcases build_cases payload material with hok | herror
    · obtain ⟨e, -, -, hbuild, -, -⟩ := hok
      exact ⟨e, hbuild⟩
    · obtain ⟨cause, -, hnot⟩ := herror
      exact absurd hwritable (hnot members hpayload hstates)

theorem stage_of_build_eq_error {failure : BuildError}
    (h : build payload material = .error failure) : failure.stage = .marshalingStatement := by
  rcases build_cases payload material with hok | herror
  · obtain ⟨e, -, -, hbuild, -, -⟩ := hok
    rw [hbuild] at h
    cases h
  · obtain ⟨cause, hbuild, -⟩ := herror
    rw [hbuild] at h
    cases h
    rfl

/-- The order of members does not show in the predicate type. -/
theorem predicateType?_congr {members' : Json.Members}
    (h : Rearranged (.object members) (.object members')) :
    predicateType? (.json (.object members)) = predicateType? (.json (.object members')) := by
  rcases h.get? "predicateType" with hnone | hsome
  · simp only [predicateType?, hnone.1, hnone.2]
  · obtain ⟨v, v', hv, hv', hsame⟩ := hsome
    simp only [predicateType?, hv, hv']
    cases hsame <;> rfl

/-- The order of members does not show in the envelope. -/
theorem build_congr {members' : Json.Members}
    (h : Rearranged (.object members) (.object members'))
    (hkeys : (Json.object members).UniqueKeys) (hkeys' : (Json.object members').UniqueKeys) :
    build (.json (.object members)) material = build (.json (.object members')) material := by
  have hcanonical := canonical_eq_of_form (h.form_eq hkeys hkeys')
  unfold build encodePayload
  rw [predicateType?_congr h]
  cases predicateType? (.json (.object members')) with
  | none => rfl
  | some t => simp only [hcanonical]

/-! ## Reading -/

/-- What is read from an envelope: an object of the payload, its type and one signature without a
key. The payload is the statement up to the order of members, and the signature is read leniently,
so it gives its bytes back if they can be decoded at all. -/
structure Carries (e : Envelope) (members : Json.Members) (signature : Bytes) : Prop where
  predicateType : members.get? "predicateType" = none ∧ e.predicateType = [] ∨
    members.get? "predicateType" = some (.text e.predicateType)
  data : ∃ payload, readBytes e.data = .ok (readForm payload signature) ∧
    ∃ bytes v, Base64.decode? payload = some bytes ∧ readBytes bytes = .ok v ∧
      Rearranged v (.object members)
  signature : ∀ t, Utf8.decode signature = .ok t →
    Utf8.encode (Utf8.decodeLenient signature) = .ok signature

theorem BuiltFrom.carries {signature bytes : Bytes} (h : BuiltFrom e members signature bytes)
    (hfree : (Json.object members).FloatFree) (hkeys : (Json.object members).UniqueKeys) :
    Carries e members signature := by
  obtain ⟨data, hdata, hread⟩ := canonical_toJson bytes signature
  have hsame : data = e.data := by
    rw [h.data] at hdata
    exact (Except.ok.inj hdata).symm
  constructor
  · exact predicateType?_eq_some_iff.1 h.predicateType
  · rw [hsame] at hread
    exact ⟨Base64.encode bytes, hread, bytes, _, Base64.decode?_encode bytes,
      readBytes_canonical hfree h.statement, (Rearranged.normal hkeys).symm⟩
  · intro t ht
    rw [Utf8.decodeLenient_of_decode ht]
    exact Utf8.decode_eq_ok_iff.1 ht

/-- An envelope is built exactly of the objects that state a predicate type as a text or none and
that can be written, whatever the signature is; everything else fails at the statement. Without
binary numbers, the envelope carries the statement and the signature, and the order of members does
not show in it. -/
theorem build_carries (payload : Payload) (material : Material) :
    ((∃ e, build payload material = .ok e) ↔
      ∃ members, payload = .json (.object members) ∧ StatesType members ∧
        (Json.object members).Writable) ∧
    (∀ failure, build payload material = .error failure →
      failure.stage.describe = "marshaling attestation") ∧
    (∀ members e, payload = .json (.object members) → (Json.object members).UniqueKeys →
      (Json.object members).FloatFree → build payload material = .ok e →
        Carries e members material.signature) ∧
    (∀ members members', payload = .json (.object members) → (Json.object members).UniqueKeys →
      (Json.object members').UniqueKeys → Rearranged (.object members) (.object members') →
        build payload material = build (.json (.object members')) material) := by
  refine ⟨build_eq_ok_iff, ?stage, ?carries, ?rearranged⟩
  case stage =>
    intro failure h
    rw [stage_of_build_eq_error h]
    rfl
  case carries =>
    intro members e hpayload hkeys hfree h
    subst hpayload
    obtain ⟨bytes, hfrom⟩ := BuiltFrom.of_build h
    exact hfrom.carries hfree hkeys
  case rearranged =>
    intro members members' hpayload hkeys hkeys' h
    subst hpayload
    exact build_congr h hkeys hkeys'

/-- A statement with a number, under a signature that is no UTF-8. -/
theorem build_carries_undecoded :
    let members : Json.Members := [("predicateType", .text "p"), ("n", .array [.int 1])]
    let material : Material := { content := [], signature := [0xFF] }
    ∃ e, build (.json (.object members)) material = .ok e ∧ Carries e members [0xFF] := by
  intro members material
  have hpair {α : Type} {P : α → Prop} {a b : α} (h : P a ∧ P b) : ∀ x ∈ [a, b], P x := by
    simpa using h
  have hwritable : (Json.object members).Writable :=
    .object (hpair ⟨by decide, by decide⟩)
      (hpair ⟨.text (by decide), .array (by simpa using .int (by decide))⟩)
  have hfree : (Json.object members).FloatFree :=
    .object (hpair ⟨.text _, .array (by simpa using .int 1)⟩)
  have hkeys : (Json.object members).UniqueKeys :=
    .object (by decide : [("predicateType" : Text), "n"].Nodup)
      (hpair ⟨.text _, .array (by simpa using .int 1)⟩)
  have hstates : StatesType members := fun v hv => ⟨"p", (Option.some.inj hv).symm⟩
  obtain ⟨hiff, -, hcarries, -⟩ := build_carries (.json (.object members)) material
  obtain ⟨e, he⟩ := hiff.2 ⟨members, rfl, hstates, hwritable⟩
  exact ⟨e, he, hcarries members e rfl hkeys hfree he⟩

end Envelope
end Signet
