import Mathlib
import Signet.Proofs.Bytes.Base64
import Signet.Proofs.Json.Normal
import Signet.Proofs.Registry.Frame
import Signet.Proofs.Registry.Layers
import Signet.Proofs.Storage.Prepared
import Signet.Storage.Build

/-!
# Layers of signing material

A layer is built of material that has a signature and whose certificate, if there is one, is the
UTF-8 form of a text together with its chain. The layer states all of this material: the base64
form of a signature and the texts of certificates are found back, so that the layers of different
material are different, and an entity takes both of them.

## Main definitions

* `Layer.Repeats l other` — the other layer has the content and the annotations of this one.
* `Material.certified` — the certificate with its chain, as far as a layer keeps them.
* `Material.Buildable` — material of which a layer is built.
* `Material.Agrees kind` — the same material, as far as a layer of the kind keeps it.
-/
namespace Signet

namespace Layer

variable {l l' other : Layer} {layers : List Layer}

/-! ## Layers that are there -/

/-- The other layer has the same content and the same annotations in some order, whatever its
type is. -/
structure Repeats (l other : Layer) : Prop where
  content : other.content = l.content
  annotations : other.annotations.Perm l.annotations

/-- Where digests tell contents apart, layers are alike if one repeats the other. -/
theorem alike_iff_repeats (hd : Assoc.Distinct l.annotations)
    (hdiffer : DigestsDiffer [l.content, other.content]) :
    other.alike l = true ↔ l.Repeats other := by
  rw [alike, Bool.and_eq_true, decide_eq_true_iff, Annotations.same, decide_eq_true_iff]
  constructor
  · intro h
    exact ⟨hdiffer _ (by simp) _ (by simp) h.1, Json.perm_of_sortKeys_eq h.2⟩
  · intro h
    have hother : Assoc.Distinct other.annotations := hd.perm h.annotations.symm
    exact ⟨congrArg sha256Digest h.content, Json.sortKeys_eq_of_perm hother h.annotations⟩

/-- A layer that is not there yet is added at the end. -/
theorem appendTo_of_forall_not_repeats (hd : Assoc.Distinct l.annotations)
    (hdiffer : DigestsDiffer ((layers ++ [l]).map content))
    (h : ∀ other ∈ layers, ¬ l.Repeats other) : l.appendTo layers = layers ++ [l] := by
  rw [appendTo, if_neg]
  intro hany
  obtain ⟨other, hother, halike⟩ := List.any_eq_true.1 hany
  have hpair : DigestsDiffer [l.content, other.content] :=
    hdiffer.mono (by simpa using .inl ⟨other, hother, rfl⟩)
  exact h other hother ((alike_iff_repeats hd hpair).1 halike)

/-- A layer is added once. -/
theorem appendTo_appendTo (l : Layer) (layers : List Layer) :
    l.appendTo (l.appendTo layers) = l.appendTo layers := by
  rw [appendTo, if_pos (any_alike_appendTo l layers)]

end Layer

namespace Material

variable {m m' : Material} {kind : Kind} {l l' : Layer} {a b : Annotations}
  {kept kept' : Option (Bytes × Bytes)}

/-! ## Certificates -/

/-- The certificate with its chain. An empty certificate is none, whatever the chain is, and a
missing chain is an empty one. -/
def certified (m : Material) : Option (Bytes × Bytes) :=
  match m.certificate with
  | none | some [] => none
  | some certificate => some (certificate, m.chain.getD [])

/-- The annotations of a certificate and its chain: the texts of which they are the UTF-8 form. -/
inductive Annotates : Option (Bytes × Bytes) → Annotations → Prop
  | none : Annotates none []
  | some {c d : Bytes} {certificate chain : Text} (hcertificate : Utf8.encode certificate = .ok c)
    (hchain : Utf8.encode chain = .ok d) :
    Annotates (some (c, d)) [(AnnotationKey.certificate, certificate), (AnnotationKey.chain, chain)]

/-- The annotations state the certificate and the chain. -/
theorem Annotates.injective (h : Annotates kept a) (h' : Annotates kept' a) : kept = kept' := by
  cases h with
  | none =>
    cases h'
    rfl
  | some hcertificate hchain =>
    cases h' with
    | some hcertificate' hchain' =>
      rw [Except.ok.inj (hcertificate.symm.trans hcertificate'),
        Except.ok.inj (hchain.symm.trans hchain')]

/-- A certificate and its chain have one form as annotations. -/
theorem Annotates.functional (h : Annotates kept a) (h' : Annotates kept b) : a = b := by
  have hread {s t : Text} {bytes : Bytes} (hs : Utf8.encode s = .ok bytes)
      (ht : Utf8.encode t = .ok bytes) : s = t :=
    Except.ok.inj ((Utf8.decode_of_encode hs).symm.trans (Utf8.decode_of_encode ht))
  cases h with
  | none =>
    cases h'
    rfl
  | some hcertificate hchain =>
    cases h' with
    | some hcertificate' hchain' => rw [hread hcertificate hcertificate', hread hchain hchain']

theorem Annotates.keys (h : Annotates kept a) :
    a.map Prod.fst = [] ∨ a.map Prod.fst = [AnnotationKey.certificate, AnnotationKey.chain] := by
  cases h with
  | none => exact .inl rfl
  | some _ _ => exact .inr rfl

theorem exists_annotates_iff : (∃ a, Annotates kept a) ↔
    ∀ certificate chain, kept = some (certificate, chain) →
      Utf8.Valid certificate ∧ Utf8.Valid chain := by
  constructor
  · rintro ⟨a, h⟩ certificate chain rfl
    cases h with
    | some hcertificate hchain => exact ⟨⟨_, hcertificate⟩, ⟨_, hchain⟩⟩
  · intro h
    cases kept with
    | none => exact ⟨_, .none⟩
    | some p =>
      obtain ⟨⟨_, hcertificate⟩, ⟨_, hchain⟩⟩ := h p.1 p.2 rfl
      exact ⟨_, .some hcertificate hchain⟩

theorem certified_eq (m : Material) : m.certified =
    (m.certificate.filter fun b => !b.isEmpty).map fun c => (c, m.chain.getD []) := by
  rw [certified]
  rcases m.certificate with _ | _ | ⟨b, rest⟩ <;> rfl

/-- The annotations are those of the certificate and the chain, where both are UTF-8. -/
theorem certificateAnnotations_eq_ok_iff :
    m.certificateAnnotations kind = .ok a ↔ Annotates m.certified a := by
  rw [certificateAnnotations, certified_eq]
  cases m.certificate.filter fun b => !b.isEmpty with
  | none =>
    constructor
    · intro h
      cases h
      exact .none
    · intro h
      cases h
      rfl
  | some c =>
    constructor
    · intro h
      dsimp only at h
      split at h
      · rename_i certificate chain hcertificate hchain
        cases h
        exact .some (Utf8.decode_eq_ok_iff.1 hcertificate) (Utf8.decode_eq_ok_iff.1 hchain)
      · cases h
    · intro h
      cases h with
      | some hcertificate hchain =>
        dsimp only
        rw [Utf8.decode_of_encode hcertificate, Utf8.decode_of_encode hchain]

/-- There is one way to fail with a certificate. -/
theorem certificateAnnotations_eq_error {e : BuildError}
    (h : m.certificateAnnotations kind = .error e) :
    e = ⟨.creating kind, .invalidCertificate⟩ := by
  rw [certificateAnnotations] at h
  split at h
  · cases h
  · split at h
    · cases h
    · cases h
      rfl

/-! ## What a layer keeps -/

/-- The type of the layers of a kind. -/
def layerType : Kind → Text
  | .attestation => MediaType.envelope
  | .signature => MediaType.simpleSigning

/-- The content of the layer: what was signed, or the signed envelope. -/
def layerContent (m : Material) : Kind → Bytes
  | .attestation => m.signature
  | .signature => m.content

/-- The annotation for the signature, which is empty where the content is the signature. -/
def signatureNote (m : Material) : Kind → Text
  | .attestation => []
  | .signature => Base64.encode m.signature

/-- The layer of the material, with the annotations of the certificate. -/
def layerWith (m : Material) (kind : Kind) (certificate : Annotations) : Layer where
  mediaType := layerType kind
  content := m.layerContent kind
  annotations := (AnnotationKey.signature, m.signatureNote kind) :: certificate

theorem layer_eq (m : Material) (kind : Kind) :
    m.layer kind = if m.signature = [] then .error ⟨.creating kind, .withoutSignature kind⟩
      else (m.certificateAnnotations kind).map (m.layerWith kind) := by
  simp only [layer, List.isEmpty_iff]
  cases kind <;> rfl

/-- Material of which a layer is built. -/
structure Buildable (m : Material) : Prop where
  signed : m.signature ≠ []
  readable : ∀ certificate chain, m.certified = some (certificate, chain) →
    Utf8.Valid certificate ∧ Utf8.Valid chain

/-- The same material as far as a layer of the kind keeps it: signature, certificate and chain, and
for a signature what was signed. -/
structure Agrees (kind : Kind) (m m' : Material) : Prop where
  signature : m.signature = m'.signature
  certified : m.certified = m'.certified
  content : kind = .signature → m.content = m'.content

theorem layer_eq_ok_iff : m.layer kind = .ok l ↔
    m.signature ≠ [] ∧ ∃ a, Annotates m.certified a ∧ m.layerWith kind a = l := by
  rw [layer_eq]
  split
  · rename_i hempty
    exact iff_of_false (fun h => by cases h) fun h => h.1 hempty
  · rename_i hsigned
    rw [and_iff_right hsigned]
    simp only [← @certificateAnnotations_eq_ok_iff m kind]
    cases m.certificateAnnotations kind with
    | error e => simp [Except.map]
    | ok a => simp [Except.map]

theorem exists_layer_iff : (∃ l, m.layer kind = .ok l) ↔ m.Buildable := by
  simp only [layer_eq_ok_iff]
  constructor
  · rintro ⟨_, hsigned, a, ha, -⟩
    exact ⟨hsigned, exists_annotates_iff.1 ⟨a, ha⟩⟩
  · intro h
    obtain ⟨a, ha⟩ := exists_annotates_iff.2 h.readable
    exact ⟨_, h.signed, a, ha, rfl⟩

/-- Why no layer is built. -/
theorem layer_eq_error (h : ¬ m.Buildable) : m.layer kind =
    .error ⟨.creating kind, if m.signature = [] then .withoutSignature kind
      else .invalidCertificate⟩ := by
  have hnone : ∀ l, m.layer kind ≠ .ok l := fun l hl => h (exists_layer_iff.1 ⟨l, hl⟩)
  rw [layer_eq] at hnone ⊢
  split
  · rfl
  · rename_i hsigned
    rw [if_neg hsigned] at hnone
    cases hcertificate : m.certificateAnnotations kind with
    | error e => rw [certificateAnnotations_eq_error hcertificate, Except.map]
    | ok a =>
      rw [hcertificate] at hnone
      exact absurd rfl (hnone _)

/-- Content and signature are found in the layer of a signature, the signature in that of an
attestation. -/
theorem layerContent_eq_and_signatureNote_eq_iff :
    m.layerContent kind = m'.layerContent kind ∧ m.signatureNote kind = m'.signatureNote kind ↔
      m.signature = m'.signature ∧ (kind = .signature → m.content = m'.content) := by
  cases kind with
  | attestation => simp [layerContent, signatureNote]
  | signature => simp [layerContent, signatureNote, Base64.encode_injective.eq_iff, and_comm]

/-- Layers that are built are the same exactly if they are built of the same material. -/
theorem layer_eq_layer_iff (h : m.layer kind = .ok l) (h' : m'.layer kind = .ok l') :
    l = l' ↔ m.Agrees kind m' := by
  obtain ⟨-, a, ha, rfl⟩ := layer_eq_ok_iff.1 h
  obtain ⟨-, b, hb, rfl⟩ := layer_eq_ok_iff.1 h'
  have hcertified : a = b ↔ m.certified = m'.certified := by
    constructor
    · rintro rfl
      exact ha.injective hb
    · intro heq
      rw [← heq] at hb
      exact ha.functional hb
  have hparts : m.layerWith kind a = m'.layerWith kind b ↔
      (m.layerContent kind = m'.layerContent kind ∧ m.signatureNote kind = m'.signatureNote kind) ∧
        a = b := by
    simp [layerWith, and_assoc]
  rw [hparts, layerContent_eq_and_signatureNote_eq_iff, hcertified]
  constructor
  · intro heq
    exact ⟨heq.1.1, heq.2, heq.1.2⟩
  · intro hagrees
    exact ⟨⟨hagrees.signature, hagrees.content⟩, hagrees.certified⟩

/-! ## Attaching layers -/

/-- No key occurs twice among the annotations of a layer. -/
theorem distinct_of_layer (h : m.layer kind = .ok l) : Assoc.Distinct l.annotations := by
  obtain ⟨-, a, ha, rfl⟩ := layer_eq_ok_iff.1 h
  rw [Assoc.Distinct, layerWith, List.map_cons]
  dsimp only
  rcases ha.keys with hkeys | hkeys
  · rw [hkeys]
    decide +kernel
  · rw [hkeys]
    decide +kernel

/-- Layers that are built have their annotations in one order, so one repeats the other only if
they are the same. -/
theorem repeats_iff (h : m.layer kind = .ok l) (h' : m'.layer kind = .ok l') :
    l'.Repeats l ↔ l = l' := by
  have hd := distinct_of_layer h
  obtain ⟨-, a, ha, rfl⟩ := layer_eq_ok_iff.1 h
  obtain ⟨-, b, hb, rfl⟩ := layer_eq_ok_iff.1 h'
  constructor
  · intro hrepeats
    have hkeys : a.map Prod.fst = b.map Prod.fst := by
      have hlength := (hrepeats.annotations.map Prod.fst).length_eq
      simp only [layerWith, List.map_cons, List.length_cons, Nat.add_right_cancel_iff] at hlength
      rcases ha.keys with hleft | hleft <;> rcases hb.keys with hright | hright <;>
        rw [hleft, hright] at hlength ⊢ <;> simp at hlength
    have hsame : (m.layerWith kind a).annotations = (m'.layerWith kind b).annotations :=
      Assoc.eq_of_perm hd hrepeats.annotations (congrArg (AnnotationKey.signature :: ·) hkeys)
    exact Layer.mk.injEq .. ▸ ⟨rfl, hrepeats.content, hsame⟩
  · intro heq
    rw [heq]
    exact ⟨rfl, .refl _⟩

/-- Two layers that an entity does not have are added to it one after the other, unless they are
the same. -/
theorem layers_attach_attach (h : m.layer kind = .ok l) (h' : m'.layer kind = .ok l')
    {entity : SignedEntity}
    (hdiffer : DigestsDiffer ((entity.layers kind ++ [l, l']).map Layer.content))
    (hnew : ∀ other ∈ entity.layers kind, ¬ l.Repeats other)
    (hnew' : ∀ other ∈ entity.layers kind, ¬ l'.Repeats other) :
    ((entity.attach l kind).attach l' kind).layers kind =
      entity.layers kind ++ if l = l' then [l] else [l, l'] := by
  have hone : (entity.layers kind ++ [l]).map Layer.content ⊆
      (entity.layers kind ++ [l, l']).map Layer.content :=
    (((List.sublist_append_left [l] [l']).append_left _).map _).subset
  have hfirst : l.appendTo (entity.layers kind) = entity.layers kind ++ [l] :=
    Layer.appendTo_of_forall_not_repeats (distinct_of_layer h) (hdiffer.mono hone) hnew
  rw [SignedEntity.layers_attach, SignedEntity.layers_attach]
  split
  · rename_i heq
    rw [← heq, Layer.appendTo_appendTo, hfirst]
  · rename_i hne
    have hsecond : ∀ other ∈ entity.layers kind ++ [l], ¬ l'.Repeats other := by
      intro other hother
      rcases List.mem_append.1 hother with hother | hother
      · exact hnew' other hother
      · rw [List.mem_singleton.1 hother, repeats_iff h h']
        exact hne
    have hboth : entity.layers kind ++ [l] ++ [l'] = entity.layers kind ++ [l, l'] :=
      List.append_assoc _ [l] [l']
    rw [← hboth] at hdiffer ⊢
    rw [hfirst, Layer.appendTo_of_forall_not_repeats (distinct_of_layer h') hdiffer hsecond]

/-- The layers of a kind keep the material apart. A layer is built exactly of material that has a
signature and whose certificate is UTF-8 with its chain, and any other is refused with the cause.
Two layers are the same exactly if signature, certificate and chain are, and for a signature what
was signed. So where SHA-256 tells the contents apart, the layers of two pieces of material that an
entity does not have yet, whatever their types, are added to it as one if the material is the same,
and as two otherwise. -/
theorem layers_keep_material_apart (kind : Kind) :
    (∀ m : Material, ((∃ l, m.layer kind = .ok l) ↔ m.Buildable) ∧
      (¬ m.Buildable → m.layer kind = .error ⟨.creating kind,
        if m.signature = [] then .withoutSignature kind else .invalidCertificate⟩)) ∧
    (∀ (m m' : Material) (l l' : Layer), m.layer kind = .ok l → m'.layer kind = .ok l' →
      (l = l' ↔ m.Agrees kind m') ∧
      ∀ entity : SignedEntity,
        DigestsDiffer ((entity.layers kind ++ [l, l']).map Layer.content) →
        (∀ other ∈ entity.layers kind, ¬ l.Repeats other ∧ ¬ l'.Repeats other) →
        (m.Agrees kind m' →
          ((entity.attach l kind).attach l' kind).layers kind = entity.layers kind ++ [l]) ∧
        (¬ m.Agrees kind m' →
          ((entity.attach l kind).attach l' kind).layers kind = entity.layers kind ++ [l, l'])) := by
  refine ⟨fun m => ⟨exists_layer_iff, layer_eq_error⟩, fun m m' l l' h h' => ?_⟩
  have hsame := layer_eq_layer_iff h h'
  refine ⟨hsame, fun entity hdiffer hnew => ?_⟩
  have hattach := layers_attach_attach h h' hdiffer (fun other hother => (hnew other hother).1)
    fun other hother => (hnew other hother).2
  constructor
  · intro hagrees
    rw [hattach, if_pos (hsame.2 hagrees)]
  · intro hagrees
    rw [hattach, if_neg fun heq => hagrees (hsame.1 heq)]

/-- A signature with an empty certificate, beside which the chain does not count. -/
def chained : Material :=
  { content := [1], signature := [2], certificate := some [], chain := some [255] }

def bare : Material := { content := [1], signature := [2] }

/-- Another signature of the same content. -/
def resigned : Material := { content := [1], signature := [2, 0] }

/-- An entity with a signature of another content. -/
def signedOnce : SignedEntity :=
  { artifact := ⟨⟨"r.io", "a"⟩, "d"⟩, signatures := [{ mediaType := "t", content := [3] }] }

theorem layers_keep_material_apart_resigned :
    ∃ l l', chained.layer .signature = .ok l ∧ bare.layer .signature = .ok l ∧
      resigned.layer .signature = .ok l' ∧
      DigestsDiffer ((signedOnce.layers .signature ++ [l, l']).map Layer.content) ∧
      (∀ other ∈ signedOnce.layers .signature, ¬ l.Repeats other ∧ ¬ l'.Repeats other) ∧
      chained.Agrees .signature bare ∧ ¬ chained.Agrees .signature resigned ∧
      ((signedOnce.attach l .signature).attach l .signature).signatures =
        signedOnce.signatures ++ [l] ∧
      ((signedOnce.attach l .signature).attach l' .signature).signatures =
        signedOnce.signatures ++ [l, l'] := by
  have hchained : chained.layer .signature = .ok (chained.layerWith .signature []) := rfl
  have hbare : bare.layer .signature = .ok (chained.layerWith .signature []) := rfl
  have hresigned : resigned.layer .signature = .ok (resigned.layerWith .signature []) := rfl
  have hsame : chained.Agrees .signature bare := ⟨rfl, rfl, fun _ => rfl⟩
  have hother : ¬ chained.Agrees .signature resigned := fun h => by cases h.signature
  have hpair : DigestsDiffer [[3], [1]] := digestsDiffer_of_nodup (by decide +kernel)
  have hdiffer : DigestsDiffer [[3], [1], [1]] := hpair.mono (by simp [List.subset_def])
  have hnew {l l' : Layer} (hl : l.content = [1]) (hl' : l'.content = [1]) :
      ∀ other ∈ signedOnce.layers .signature, ¬ l.Repeats other ∧ ¬ l'.Repeats other := by
    refine List.forall_mem_singleton.2 ⟨fun h => ?_, fun h => ?_⟩
    · exact absurd (h.content.trans hl) (by decide)
    · exact absurd (h.content.trans hl') (by decide)
  have hkept := (layers_keep_material_apart .signature).2
  exact ⟨_, _, hchained, hbare, hresigned, hdiffer, hnew rfl rfl, hsame, hother,
    ((hkept _ _ _ _ hchained hbare).2 signedOnce hdiffer (hnew rfl rfl)).1 hsame,
    ((hkept _ _ _ _ hchained hresigned).2 signedOnce hdiffer (hnew rfl rfl)).2 hother⟩

end Material
end Signet
