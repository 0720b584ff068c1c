import Mathlib
import Signet.Proofs.Json.Normal
import Signet.Proofs.Storage.Prepared

/-!
# Layers that are attached one after the other

Signatures and attestations are attached to an entity in any order and any number, and layers
that are there may be attached again. What is known of the artifact stays as it is. The layers
that were there stay in front, and behind them stand the attached ones that are new, each of them
once. A layer is new by its identity: the digest of its content and its annotations as a map.

What is attached in both kinds is first taken apart into one list for each kind
(`SignedEntity.layers_attachAll`). On one list, the invariant is that the identities that are
there are those of all layers so far, whether or not they were added
(`Layer.mem_map_identity_firsts`).

## Main definitions

* `Layer.identity` — what tells layers apart when they are attached.
* `Layer.firsts` — the layers that are neither known nor repeat a layer before them.
* `Storing.extended` — layers with layers added one after the other.
* `SignedEntity.attachAll` — an entity with layers of both kinds attached.
-/
namespace Signet

namespace Layer

variable {l l' : Layer} {layers known new : List Layer}

/-! ## Identities -/

/-- What tells layers apart when they are attached: the digest of the content, and the annotations
in the order of their keys. -/
def identity (l : Layer) : Text × Annotations := (l.digest, Json.sortKeys l.annotations)

theorem alike_eq_true_iff : l.alike l' = true ↔ l.identity = l'.identity := by
  rw [alike, Bool.and_eq_true, decide_eq_true_iff, Annotations.same, decide_eq_true_iff, identity,
    identity, Prod.mk.injEq]

/-- As no key of annotations occurs twice, identities are the same exactly if the digests are and
every key has the same value. -/
theorem identity_eq_identity_iff (h : Assoc.Distinct l.annotations)
    (h' : Assoc.Distinct l'.annotations) :
    l.identity = l'.identity ↔ l.digest = l'.digest ∧
      ∀ key, Assoc.lookup key l.annotations = Assoc.lookup key l'.annotations := by
  rw [identity, identity, Prod.mk.injEq, ← Assoc.perm_iff_forall_lookup_eq h h']
  exact and_congr_right fun _ => ⟨Json.perm_of_sortKeys_eq, Json.sortKeys_eq_of_perm h⟩

theorem any_alike_eq_true_iff :
    (layers.any fun other => other.alike l) = true ↔ l.identity ∈ layers.map identity := by
  simp only [List.any_eq_true, alike_eq_true_iff, List.mem_map]

theorem appendTo_of_mem (h : l.identity ∈ layers.map identity) : l.appendTo layers = layers := by
  rw [appendTo, if_pos (any_alike_eq_true_iff.2 h)]

theorem appendTo_of_notMem (h : l.identity ∉ layers.map identity) :
    l.appendTo layers = layers ++ [l] := by
  rw [appendTo, if_neg fun hany => h (any_alike_eq_true_iff.1 hany)]

/-- Identities that differ from each other still do when a layer is added. -/
theorem nodup_map_identity_appendTo (h : (layers.map identity).Nodup) :
    ((l.appendTo layers).map identity).Nodup := by
  by_cases hl : l.identity ∈ layers.map identity
  · rwa [appendTo_of_mem hl]
  · rw [appendTo_of_notMem hl, List.map_append, List.map_singleton, ← List.concat_eq_append]
    exact h.concat hl

/-! ## First layers -/

/-- The layers, in their order, whose identity is neither that of a known layer nor that of a layer
before them. -/
def firsts (known new : List Layer) : List Layer :=
  (new.zipIdx.filter fun p => p.1.identity ∉ (known ++ new.take p.2).map identity).map Prod.fst

theorem firsts_concat (known new : List Layer) (l : Layer) :
    firsts known (new ++ [l]) = firsts known new ++
      if l.identity ∈ (known ++ new).map identity then [] else [l] := by
  rw [firsts, List.zipIdx_append, List.filter_append, List.map_append, firsts]
  congr 2
  · -- What stands before a layer of the front does not change.
    apply List.filter_congr
    intro p hp
    rw [List.take_append_of_le_length (List.snd_lt_of_mem_zipIdx hp).le]
  · have hlast : (new ++ [l]).take (0 + new.length) = new := by
      rw [Nat.zero_add, List.take_left]
    rw [List.zipIdx_singleton, List.filter_singleton, hlast]
    by_cases h : l.identity ∈ (known ++ new).map identity
    · rw [if_pos h, decide_eq_false (not_not_intro h)]
      rfl
    · rw [if_neg h, decide_eq_true h]
      rfl

/-- No identity is lost: behind the known layers, the first ones have those of all. -/
theorem mem_map_identity_firsts {i : Text × Annotations} :
    i ∈ (known ++ firsts known new).map identity ↔ i ∈ (known ++ new).map identity := by
  induction new using List.reverseRecOn with
  | nil => rfl
  | append_singleton new l ih =>
    have hlast (layers : List Layer) : i ∈ (layers ++ [l]).map identity ↔
        i ∈ layers.map identity ∨ i = l.identity := by
      rw [List.map_append, List.mem_append, List.map_singleton, List.mem_singleton]
    rw [firsts_concat, ← List.append_assoc known, ← List.append_assoc known, hlast (known ++ new)]
    split
    · rename_i hmem
      rw [List.append_nil, ih]
      exact (or_iff_left_of_imp fun heq => heq ▸ hmem).symm
    · rw [hlast, ih]

end Layer

namespace Storing

variable {layers new : List Layer}

/-! ## Layers of one kind -/

/-- Layers with layers added one after the other. -/
def extended (layers new : List Layer) : List Layer :=
  new.foldl (fun all l => l.appendTo all) layers

/-- Layers are extended by the first of each new one. The induction is from the end, where the
last layer is added to all that were extended before it. -/
theorem extended_eq_append_firsts (layers new : List Layer) :
    extended layers new = layers ++ Layer.firsts layers new := by
  induction new using List.reverseRecOn with
  | nil => exact (List.append_nil layers).symm
  | append_singleton new l ih =>
    have hlast : extended layers (new ++ [l]) = l.appendTo (extended layers new) := by
      rw [extended, List.foldl_append]
      rfl
    rw [hlast, ih, Layer.firsts_concat]
    by_cases h : l.identity ∈ (layers ++ new).map Layer.identity
    · rw [if_pos h, List.append_nil, Layer.appendTo_of_mem (Layer.mem_map_identity_firsts.2 h)]
    · rw [if_neg h, ← List.append_assoc,
        Layer.appendTo_of_notMem fun hmem => h (Layer.mem_map_identity_firsts.1 hmem)]

theorem mem_map_identity_extended {i : Text × Annotations} :
    i ∈ (extended layers new).map Layer.identity ↔ i ∈ (layers ++ new).map Layer.identity := by
  rw [extended_eq_append_firsts, Layer.mem_map_identity_firsts]

/-- Layers that are there are not added again. -/
theorem extended_eq_self (h : ∀ l ∈ new, l.identity ∈ layers.map Layer.identity) :
    extended layers new = layers := by
  induction new with
  | nil => rfl
  | cons l rest ih =>
    rw [extended, List.foldl_cons, Layer.appendTo_of_mem (h l List.mem_cons_self)]
    exact ih fun other hother => h other (List.mem_cons_of_mem l hother)

theorem nodup_map_identity_extended (h : (layers.map Layer.identity).Nodup) :
    ((extended layers new).map Layer.identity).Nodup := by
  induction new generalizing layers with
  | nil => exact h
  | cons l rest ih => exact ih (Layer.nodup_map_identity_appendTo h)

end Storing

namespace SignedEntity

open Storing (extended)

variable {entity entity' : SignedEntity} {kind kind' : Kind} {calls : List (Kind × Layer)}

/-! ## Layers of both kinds -/

/-- The entity with layers of their kinds attached one after the other. -/
def attachAll (entity : SignedEntity) (calls : List (Kind × Layer)) : SignedEntity :=
  calls.foldl (fun attached c => attached.attach c.2 c.1) entity

/-- The layers of a kind, in the order in which they are attached. -/
def layersOf (kind : Kind) (calls : List (Kind × Layer)) : List Layer :=
  (calls.filter fun c => c.1 = kind).map Prod.snd

theorem mem_layersOf {l : Layer} : l ∈ layersOf kind calls ↔ (kind, l) ∈ calls := by
  simp [layersOf]

theorem attachAll_append (entity : SignedEntity) (calls calls' : List (Kind × Layer)) :
    entity.attachAll (calls ++ calls') = (entity.attachAll calls).attachAll calls' :=
  List.foldl_append

/-- An entity consists of the artifact with what is known of it and the layers of each kind. -/
theorem ext_layers (hartifact : entity.artifact = entity'.artifact)
    (hdescriptor : entity.descriptor = entity'.descriptor) (hknown : entity.known = entity'.known)
    (hlayers : ∀ kind, entity.layers kind = entity'.layers kind) : entity = entity' := by
  have hsignatures : entity.signatures = entity'.signatures := hlayers .signature
  have hattestations : entity.attestations = entity'.attestations := hlayers .attestation
  cases entity
  cases entity'
  simp_all only

/-- Attaching does not change what is said of the artifact. -/
theorem attach_keeps (entity : SignedEntity) (l : Layer) (kind : Kind) :
    (entity.attach l kind).artifact = entity.artifact ∧
      (entity.attach l kind).descriptor = entity.descriptor ∧
      (entity.attach l kind).known = entity.known := by
  cases kind <;> exact ⟨rfl, rfl, rfl⟩

theorem attachAll_keeps (entity : SignedEntity) (calls : List (Kind × Layer)) :
    (entity.attachAll calls).artifact = entity.artifact ∧
      (entity.attachAll calls).descriptor = entity.descriptor ∧
      (entity.attachAll calls).known = entity.known := by
  induction calls generalizing entity with
  | nil => exact ⟨rfl, rfl, rfl⟩
  | cons c rest ih =>
    obtain ⟨hartifact, hdescriptor, hknown⟩ := entity.attach_keeps c.2 c.1
    rw [← hartifact, ← hdescriptor, ← hknown]
    exact ih (entity.attach c.2 c.1)

theorem layers_attach_of_ne (entity : SignedEntity) (l : Layer) (h : kind' ≠ kind) :
    (entity.attach l kind').layers kind = entity.layers kind := by
  cases kind <;> cases kind' <;> first | rfl | exact absurd rfl h

/-- The layers of a kind are extended by those of the kind, whatever is attached in between. -/
theorem layers_attachAll (entity : SignedEntity) (calls : List (Kind × Layer)) (kind : Kind) :
    (entity.attachAll calls).layers kind =
      extended (entity.layers kind) (layersOf kind calls) := by
  induction calls generalizing entity with
  | nil => rfl
  | cons c rest ih =>
    obtain ⟨kind', l⟩ := c
    by_cases hkind : kind' = kind
    · subst hkind
      have hof : layersOf kind' ((kind', l) :: rest) = l :: layersOf kind' rest := by
        simp [layersOf]
      rw [hof, extended, List.foldl_cons, ← layers_attach]
      exact ih (entity.attach l kind')
    · have hof : layersOf kind ((kind', l) :: rest) = layersOf kind rest := by
        simp [layersOf, hkind]
      rw [hof, ← layers_attach_of_ne entity l hkind]
      exact ih (entity.attach l kind')

/-- Only the order of the layers of one kind counts. -/
theorem attachAll_eq_of_layersOf_eq {calls' : List (Kind × Layer)}
    (h : ∀ kind, layersOf kind calls' = layersOf kind calls) :
    entity.attachAll calls' = entity.attachAll calls := by
  obtain ⟨hartifact, hdescriptor, hknown⟩ := entity.attachAll_keeps calls
  obtain ⟨hartifact', hdescriptor', hknown'⟩ := entity.attachAll_keeps calls'
  refine ext_layers (hartifact'.trans hartifact.symm) (hdescriptor'.trans hdescriptor.symm)
    (hknown'.trans hknown.symm) fun kind => ?_
  rw [layers_attachAll, layers_attachAll, h]

/-- What is there is not attached again. -/
theorem attachAll_eq_self (h : ∀ c ∈ calls, c.2.identity ∈ (entity.layers c.1).map Layer.identity) :
    entity.attachAll calls = entity := by
  obtain ⟨hartifact, hdescriptor, hknown⟩ := entity.attachAll_keeps calls
  refine ext_layers hartifact hdescriptor hknown fun kind => ?_
  rw [layers_attachAll]
  exact Storing.extended_eq_self fun l hl => h (kind, l) (mem_layersOf.1 hl)

/-- What was attached is there. -/
theorem identity_mem_attachAll {c : Kind × Layer} (h : c ∈ calls) :
    c.2.identity ∈ ((entity.attachAll calls).layers c.1).map Layer.identity := by
  rw [layers_attachAll, Storing.mem_map_identity_extended]
  exact List.mem_map_of_mem (List.mem_append_right _ (mem_layersOf.2 h))

/-- Attaching is an append that keeps the order and repeats nothing. Layers have the same identity
if their contents have the same digest and their annotations are the same map. After any layers of
both kinds, the artifact with what is known of it is unchanged, and the layers of each kind are
those that were there, followed by the first of each new identity; so identities that differ from
each other still do, attaching again what was attached changes nothing, and only the order within a
kind counts. -/
theorem layers_attached_once (entity : SignedEntity) (calls : List (Kind × Layer)) :
    (∀ l l' : Layer, Assoc.Distinct l.annotations → Assoc.Distinct l'.annotations →
      (l.identity = l'.identity ↔ l.digest = l'.digest ∧
        ∀ key, Assoc.lookup key l.annotations = Assoc.lookup key l'.annotations)) ∧
    ((entity.attachAll calls).artifact = entity.artifact ∧
      (entity.attachAll calls).descriptor = entity.descriptor ∧
      (entity.attachAll calls).known = entity.known) ∧
    (∀ kind, (entity.attachAll calls).layers kind =
      entity.layers kind ++ Layer.firsts (entity.layers kind) (layersOf kind calls)) ∧
    (∀ kind, ((entity.layers kind).map Layer.identity).Nodup →
      (((entity.attachAll calls).layers kind).map Layer.identity).Nodup) ∧
    (∀ before again after, calls = before ++ after → again ⊆ before →
      entity.attachAll (before ++ again ++ after) = entity.attachAll calls) ∧
    ∀ calls', (∀ kind, layersOf kind calls' = layersOf kind calls) →
      entity.attachAll calls' = entity.attachAll calls := by
  refine ⟨fun l l' => Layer.identity_eq_identity_iff, entity.attachAll_keeps calls, fun kind => ?_,
    fun kind hnodup => ?_, fun before again after hcalls hagain => ?_,
    fun calls' => attachAll_eq_of_layersOf_eq⟩
  · rw [layers_attachAll, Storing.extended_eq_append_firsts]
  · rw [layers_attachAll]
    exact Storing.nodup_map_identity_extended hnodup
  · have hsame : (entity.attachAll before).attachAll again = entity.attachAll before :=
      attachAll_eq_self fun c hc => identity_mem_attachAll (hagain hc)
    rw [hcalls, attachAll_append, attachAll_append, hsame, ← attachAll_append]

/-- A layer with two annotations. -/
def noted : Layer :=
  { mediaType := "t", content := [1], annotations := [("a", "1"), ("b", "2")] }

/-- The same content and annotations under another type, in another order. -/
def renoted : Layer :=
  { mediaType := "u", content := [1], annotations := [("b", "2"), ("a", "1")] }

/-- The same content without annotations. -/
def unnoted : Layer := { mediaType := "t", content := [1] }

/-- An entity that has one signature twice. -/
def signedTwice : SignedEntity :=
  { artifact := Storing.sampleArtifact, signatures := [noted, renoted] }

/-- Layers of both kinds, some of them twice. -/
def mixed : List (Kind × Layer) :=
  [(.signature, renoted), (.attestation, renoted), (.signature, unnoted), (.attestation, noted)]

theorem layers_attached_once_mixed :
    noted.identity = renoted.identity ∧
      (signedTwice.attachAll mixed).layers .signature = [noted, renoted, unnoted] ∧
      (signedTwice.attachAll mixed).layers .attestation = [renoted] ∧
      (((signedTwice.attachAll mixed).layers .attestation).map Layer.identity).Nodup ∧
      signedTwice.attachAll (mixed.take 3 ++ mixed.take 2 ++ mixed.drop 3) =
        signedTwice.attachAll mixed ∧
      signedTwice.attachAll
          (mixed.filter (fun c => c.1 = .signature) ++ mixed.filter fun c => c.1 = .attestation) =
        signedTwice.attachAll mixed := by
  have hnoted : Assoc.Distinct noted.annotations := by
    rw [Assoc.Distinct]
    decide
  have hperm : noted.annotations.Perm renoted.annotations := .swap ..
  have hsorted (kind : Kind) : layersOf kind (mixed.filter (fun c => c.1 = .signature) ++
      mixed.filter fun c => c.1 = .attestation) = layersOf kind mixed := by
    cases kind <;> rfl
  obtain ⟨hidentity, -, hlayers, hnodup, hagain, horder⟩ := layers_attached_once signedTwice mixed
  exact ⟨(hidentity _ _ hnoted (hnoted.perm hperm)).2 ⟨rfl, Assoc.lookup_perm hnoted hperm⟩,
    (hlayers .signature).trans (by decide +kernel),
    (hlayers .attestation).trans (by decide +kernel),
    hnodup .attestation List.nodup_nil,
    hagain (mixed.take 3) (mixed.take 2) (mixed.drop 3) rfl
      (List.take_sublist_take_left (by decide)).subset,
    horder _ hsorted⟩

end SignedEntity
end Signet
