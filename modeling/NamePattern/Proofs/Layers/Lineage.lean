import Mathlib.Data.List.Nodup
import Mathlib.Data.List.Perm.Subperm
import NamePattern.LayerTree

/-!
Where a layer lies in a flat list. Its lineage is the chain of its parents, from a layer without a
parent down. If ids differ, a layer has one lineage at most, and no layer occurs twice in it: a layer that
did would have a second, shorter one. So no lineage is longer than the list, whatever cycles there are
elsewhere in it.
-/

namespace NamePattern.Layer

/-- The layers above a layer, from the root down: the first has no parent, and each is the parent of
the next one. -/
inductive Lineage (layers : List Layer) : List Layer → Layer → Prop
  | root {l} (hl : l ∈ layers) (hparent : l.parent = none) : Lineage layers [] l
  | child {above p l} (hp : Lineage layers above p) (hl : l ∈ layers)
      (hparent : l.parent = some p.id) : Lineage layers (above ++ [p]) l

/-- The parent of a layer, if it has one, is a listed group. -/
def HasGroup (layers : List Layer) (l : Layer) : Prop :=
  ∀ id, l.parent = some id → ∃ p ∈ layers, p.id = id ∧ p.kind = .group

/-- A list of layers that is a forest. -/
structure IsForest (layers : List Layer) : Prop where
  distinct : (layers.map Layer.id).Nodup
  grouped : ∀ l ∈ layers, HasGroup layers l
  rooted : ∀ l ∈ layers, ∃ above, Lineage layers above l

variable {layers : List Layer}

theorem eq_of_id_eq (distinct : (layers.map Layer.id).Nodup) {a b : Layer} (ha : a ∈ layers)
    (hb : b ∈ layers) (h : a.id = b.id) : a = b :=
  List.inj_on_of_nodup_map distinct ha hb h

/-- A parent is a group itself, and not only a layer with the id of one. -/
theorem kind_of_parent (distinct : (layers.map Layer.id).Nodup) {p l : Layer} (hp : p ∈ layers)
    (hgroup : HasGroup layers l) (hparent : l.parent = some p.id) : p.kind = .group := by
  obtain ⟨q, hq, hid, hkind⟩ := hgroup p.id hparent
  rwa [eq_of_id_eq distinct hq hp hid] at hkind

namespace Lineage
variable {above : List Layer} {l : Layer}

theorem mem (h : Lineage layers above l) : l ∈ layers := by
  cases h with
  | root hl _ => exact hl
  | child _ hl _ => exact hl

/-- The last layer above is the parent. -/
theorem parent_eq (h : Lineage layers above l) : l.parent = above.getLast?.map Layer.id := by
  cases h with
  | root _ hparent => rw [hparent]; rfl
  | child _ _ hparent => rw [hparent, List.getLast?_concat]; rfl

/-- Every layer above has the layers above itself as its lineage. -/
theorem of_append {front back : List Layer} {a : Layer}
    (h : Lineage layers (front ++ a :: back) l) : Lineage layers front a := by
  generalize habove : front ++ a :: back = above at h
  induction h generalizing back with
  | root _ _ => simp at habove
  | child hp _ _ ih =>
    rcases List.eq_nil_or_concat back with rfl | ⟨more, b, rfl⟩
    · obtain ⟨rfl, hlast⟩ := List.append_inj' habove rfl
      cases hlast
      exact hp
    · rw [List.concat_eq_append, ← List.cons_append, ← List.append_assoc] at habove
      obtain ⟨hmore, -⟩ := List.append_inj' habove rfl
      exact ih hmore

theorem subset (h : Lineage layers above l) : above ⊆ layers := by
  intro a ha
  obtain ⟨front, back, rfl⟩ := List.append_of_mem ha
  exact h.of_append.mem

/-- Ids tell parents, so they tell lineages. -/
theorem unique (distinct : (layers.map Layer.id).Nodup) {other : List Layer}
    (h : Lineage layers above l) (hother : Lineage layers other l) : above = other := by
  induction h generalizing other with
  | root _ hparent =>
    cases hother with
    | root _ _ => rfl
    | child _ _ hsome => rw [hparent] at hsome; cases hsome
  | child hp _ hparent ih =>
    cases hother with
    | root _ hnone => rw [hparent] at hnone; cases hnone
    | child hq _ hsome =>
      have hid := Option.some.inj (hparent.symm.trans hsome)
      obtain rfl := eq_of_id_eq distinct hp.mem hq.mem hid
      rw [ih hq]

/-- A layer is not above itself. -/
theorem notMem (distinct : (layers.map Layer.id).Nodup) (h : Lineage layers above l) :
    l ∉ above := by
  intro hl
  obtain ⟨front, back, rfl⟩ := List.append_of_mem hl
  have hlen := congrArg List.length (h.of_append.unique distinct h)
  simp at hlen

theorem nodup (distinct : (layers.map Layer.id).Nodup) (h : Lineage layers above l) :
    (above ++ [l]).Nodup := by
  induction h with
  | root _ _ => exact List.nodup_singleton _
  | child hp hl hparent ih =>
    rw [List.nodup_append_comm, List.singleton_append, List.nodup_cons]
    exact ⟨(Lineage.child hp hl hparent).notMem distinct, ih⟩

/-- A lineage is shorter than the list. -/
theorem length_lt (distinct : (layers.map Layer.id).Nodup) (h : Lineage layers above l) :
    above.length < layers.length := by
  have hsubset : above ++ [l] ⊆ layers := by
    intro a ha
    rcases List.mem_append.1 ha with ha | ha
    · exact h.subset ha
    · rw [List.mem_singleton.1 ha]
      exact h.mem
  have hlen := ((h.nodup distinct).subperm hsubset).length_le
  rw [List.length_append, List.length_singleton] at hlen
  exact hlen

end Lineage

end NamePattern.Layer
