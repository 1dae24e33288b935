import NamePattern.Proofs.Layers.Preorder

/-!
Flattening tells the tree alone. How the layers of different parents are mixed in the list has no part
in the items: the walk only looks at the layers right below a layer, and these come in the same order in
every list of the same tree. Nor does the setting for groups decide which layers are met: without it the
items of groups are left out, and that is all.
-/

namespace NamePattern.Layer

/-- A list of the same layers in which those with a parent in common, or without any, come in the same
order: the one that comes first in the one list does so in the other. -/
structure Reorders (layers other : List Layer) : Prop where
  perm : other.Perm layers
  siblings : layers.Pairwise fun a b => a.parent = b.parent → [a, b].Sublist other

variable {layers other : List Layer}

/-- Of two layers of a list without copies only one comes first. -/
theorem not_sublist_swap (nodup : layers.Nodup) {a b : Layer} (h : [a, b].Sublist layers) :
    ¬ [b, a].Sublist layers := by
  have hidx : ∀ {x y : Layer}, [x, y].Sublist layers → layers.idxOf x < layers.idxOf y :=
    List.pairwise_iff_forall_sublist.1 (pairwise_idxOf_of_nodup nodup)
  exact fun hswap => Nat.lt_asymm (hidx h) (hidx hswap)

theorem Lineage.of_subset (hsub : layers ⊆ other) {above : List Layer} {l : Layer}
    (h : Lineage layers above l) : Lineage other above l := by
  induction h with
  | root hl hparent => exact .root (hsub hl) hparent
  | child _ hl hparent ih => exact .child ih (hsub hl) hparent

theorem HasGroup.of_subset (hsub : layers ⊆ other) {l : Layer} (h : HasGroup layers l) :
    HasGroup other l := by
  intro id hparent
  obtain ⟨p, hp, hid⟩ := h id hparent
  exact ⟨p, hsub hp, hid⟩

/-- Whether layers make up a forest does not hang on their order. -/
theorem IsForest.of_perm (perm : other.Perm layers) (h : IsForest layers) : IsForest other := by
  have hsub : layers ⊆ other := perm.symm.subset
  refine ⟨?_, fun l hl => ?_, fun l hl => ?_⟩
  · rw [(perm.map Layer.id).nodup_iff]
    exact h.distinct
  · exact (h.grouped l (perm.subset hl)).of_subset hsub
  · obtain ⟨above, hlineage⟩ := h.rooted l (perm.subset hl)
    exact ⟨above, hlineage.of_subset hsub⟩

namespace Reorders
variable (h : Reorders layers other) (nodup : layers.Nodup)
include h nodup

/-- The layers right below a layer are told by the tree, and so is their order. -/
theorem members_eq (above : List Layer) : members other above = members layers above := by
  have hother : (members other above).Pairwise fun a b => [a, b].Sublist other :=
    List.pairwise_iff_forall_sublist.2 fun hab => hab.trans List.filter_sublist
  have hlayers : (members layers above).Pairwise fun a b => [a, b].Sublist other := by
    refine (h.siblings.filter _).imp_of_mem fun {a b} ha hb hab => hab ?_
    rw [(mem_members.1 ha).2, (mem_members.1 hb).2]
  refine (h.perm.filter _).eq_of_pairwise (fun a b _ _ hab hba => ?_) hother hlayers
  exact absurd hba (not_sublist_swap (h.perm.nodup_iff.2 nodup) hab)

theorem visitsBelow_eq (depth : Nat) (above : List Layer) :
    visitsBelow other depth above = visitsBelow layers depth above := by
  induction depth generalizing above with
  | zero => rfl
  | succ depth ih =>
    rw [visitsBelow_succ, visitsBelow_succ, h.members_eq nodup]
    refine List.flatMap_congr fun l _ => ?_
    rw [visitsInside, visitsInside, ih]

theorem visits_eq : visits other = visits layers := by
  rw [visits, visits, h.perm.length_eq, h.visitsBelow_eq nodup]

end Reorders

/-- The items that are not those of groups. -/
theorem itemsOf_false (image : ImageInfo) (sequence : List Visit) :
    itemsOf image false sequence
      = (itemsOf image true sequence).filter fun item => !item.isGroup := by
  have hkind : ∀ v : Visit, (!(v.item image).isGroup) = (false || decide (v.layer.kind = .pixels)) := by
    intro v
    rw [Visit.item]
    cases v.layer.kind <;> rfl
  have hall : sequence.filter (fun v => true || decide (v.layer.kind = .pixels)) = sequence :=
    List.filter_eq_self.2 fun _ _ => rfl
  rw [itemsOf, itemsOf, hall, List.filter_map]
  exact congrArg _ (List.filter_congr fun v _ => (hkind v).symm)

/-- A list that is flattened has its items with groups and without: the same ones, less those of
groups. Every reordering of it that keeps layers of one parent in their order has these very items. -/
theorem items_tell_tree_alone {image : ImageInfo} {includeGroups : Bool} {items : List Item}
    (accepted : flatten layers image includeGroups = .ok items) :
    ∃ all, flatten layers image true = .ok all ∧
      flatten layers image false = .ok (all.filter fun item => !item.isGroup) ∧
      ∀ other, Reorders layers other →
        flatten other image true = .ok all ∧
          flatten other image false = .ok (all.filter fun item => !item.isGroup) := by
  have hforest := isForest_of_flatten accepted
  have hitems : ∀ other, IsForest other → visits other = visits layers →
      flatten other image true = .ok (itemsOf image true (visits layers)) ∧
        flatten other image false = .ok ((itemsOf image true (visits layers)).filter
          fun item => !item.isGroup) := by
    intro other hother hvisits
    rw [flatten_of_isForest hother, flatten_of_isForest hother, hvisits, itemsOf_false]
    exact ⟨rfl, rfl⟩
  obtain ⟨htrue, hfalse⟩ := hitems layers hforest rfl
  refine ⟨_, htrue, hfalse, fun other hreorders => ?_⟩
  exact hitems other (hforest.of_perm hreorders.perm)
    (hreorders.visits_eq (nodup_of_distinct hforest.distinct))

/-- Layers listed before their groups, and the same layers sorted from the root down. The two without a
parent keep their order, and so do the two below `Top`. -/
theorem groups_listed_first_give_same_items :
    let arm := named "Arm" .pixels 3 (some 1)
    let body := named "Body" .group 1 (some 2)
    let empty := named "Empty" .group 4 none
    let top := named "Top" .group 2 none
    let leg := named "Leg" .pixels 5 (some 2)
    let mixed := [arm, body, empty, top, leg]
    let sorted := [empty, top, body, leg, arm]
    Reorders mixed sorted ∧ ∃ all, flatten sorted {} true = .ok all ∧
      all.map Item.name = [text "Empty", text "Top", text "Body", text "Arm", text "Leg"] ∧
      flatten sorted {} false = .ok (all.filter fun item => !item.isGroup) := by
  intro arm body empty top leg mixed sorted
  have hreorders : Reorders mixed sorted := ⟨by decide +kernel, by decide +kernel⟩
  have haccepted : flatten mixed {} false = .ok
      [Visit.item {} ⟨[top, body], arm⟩, Visit.item {} ⟨[top], leg⟩] := by
    decide +kernel
  obtain ⟨all, hmixed, -, hother⟩ := items_tell_tree_alone haccepted
  obtain ⟨htrue, hfalse⟩ := hother sorted hreorders
  refine ⟨hreorders, all, htrue, ?_, hfalse⟩
  have hall : flatten mixed {} true = .ok
      ([⟨[], empty⟩, ⟨[], top⟩, ⟨[top], body⟩, ⟨[top, body], arm⟩, ⟨[top], leg⟩].map
        (Visit.item {})) := by
    decide +kernel
  rw [hall] at hmixed
  cases hmixed
  rfl

end NamePattern.Layer
