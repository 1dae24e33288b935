import NamePattern.Proofs.Layers.Problem

/-!
A forest is flattened in pre-order, and every other list of layers is refused for its first fault.
Pre-order is told without a walk: each layer is visited once and with its lineage, and the visits are
sorted by their addresses, so that a group comes before what it holds, and siblings with all they hold
come in the order of the list. No two sequences of visits are a pre-order of the same list.
-/

namespace NamePattern.Layer

/-- Visits that go through a list of layers in pre-order. -/
structure IsPreorder (layers : List Layer) (sequence : List Visit) : Prop where
  complete : (sequence.map Visit.layer).Perm layers
  lineage : ∀ v ∈ sequence, Lineage layers v.above v.layer
  ordered : sequence.Pairwise fun v w => v.address layers < w.address layers

/-- The items of some visits, those to groups only if asked for. -/
def itemsOf (image : ImageInfo) (includeGroups : Bool) (sequence : List Visit) : List Item :=
  (sequence.filter fun v => includeGroups || v.layer.kind = .pixels).map (Visit.item image)

variable {layers : List Layer}

theorem Visit.eq_of_layer_eq (distinct : (layers.map Layer.id).Nodup) {v w : Visit}
    (hv : Lineage layers v.above v.layer) (hw : Lineage layers w.above w.layer)
    (h : v.layer = w.layer) : v = w := by
  obtain ⟨above, l⟩ := v
  obtain ⟨other, m⟩ := w
  dsimp only at hv hw h
  subst h
  rw [hv.unique distinct hw]

theorem nodup_of_ordered {sequence : List Visit}
    (h : sequence.Pairwise fun v w => v.address layers < w.address layers) : sequence.Nodup := by
  refine h.imp fun {v w} hlt heq => ?_
  rw [heq] at hlt
  exact List.lt_irrefl _ hlt

theorem isPreorder_visits (h : IsForest layers) : IsPreorder layers (visits layers) := by
  have hmem : ∀ {v}, v ∈ visits layers ↔ Lineage layers v.above v.layer :=
    mem_visits h.distinct h.grouped
  have hordered := pairwise_visitsBelow h.distinct layers.length []
  refine ⟨?_, fun v hv => hmem.1 hv, hordered⟩
  have hnodup : ((visits layers).map Visit.layer).Nodup := by
    refine List.Nodup.map_on (fun v hv w hw heq => ?_) (nodup_of_ordered hordered)
    exact Visit.eq_of_layer_eq h.distinct (hmem.1 hv) (hmem.1 hw) heq
  rw [List.perm_ext_iff_of_nodup hnodup (nodup_of_distinct h.distinct)]
  intro l
  rw [List.mem_map]
  constructor
  · rintro ⟨v, hv, rfl⟩
    exact (hmem.1 hv).mem
  · intro hl
    obtain ⟨above, hlineage⟩ := h.rooted l hl
    exact ⟨⟨above, l⟩, hmem.2 hlineage, rfl⟩

/-- The list alone decides its pre-order. -/
theorem IsPreorder.unique (distinct : (layers.map Layer.id).Nodup) {a b : List Visit}
    (ha : IsPreorder layers a) (hb : IsPreorder layers b) : a = b := by
  have hsub : ∀ {s t : List Visit}, IsPreorder layers s → IsPreorder layers t → ∀ v ∈ s, v ∈ t := by
    intro s t hs ht v hv
    have hlayer := (hs.complete.trans ht.complete.symm).mem_iff.1 (List.mem_map_of_mem hv)
    obtain ⟨w, hw, heq⟩ := List.mem_map.1 hlayer
    rwa [← Visit.eq_of_layer_eq distinct (ht.lineage w hw) (hs.lineage v hv) heq]
  have hperm : a.Perm b := by
    rw [List.perm_ext_iff_of_nodup (nodup_of_ordered ha.ordered) (nodup_of_ordered hb.ordered)]
    exact fun v => ⟨hsub ha hb v, hsub hb ha v⟩
  exact hperm.eq_of_pairwise (fun v w _ _ hvw hwv => absurd hwv (List.lt_asymm hvw))
    ha.ordered hb.ordered

theorem flatten_of_isForest (h : IsForest layers) (image : ImageInfo) (includeGroups : Bool) :
    flatten layers image includeGroups = .ok (itemsOf image includeGroups (visits layers)) := by
  rw [flatten, treeError_eq_none.2 h, walk_eq_map, List.filter_map, List.map_map]
  rfl

theorem flatten_eq_error {image : ImageInfo} {includeGroups : Bool} {e : LayerTreeError} :
    flatten layers image includeGroups = .error e ↔ FirstProblem layers e := by
  rw [← treeError_eq_some, flatten]
  cases treeError? layers <;> simp

theorem isForest_of_flatten {image : ImageInfo} {includeGroups : Bool} {items : List Item}
    (h : flatten layers image includeGroups = .ok items) : IsForest layers := by
  rw [← treeError_eq_none]
  cases htree : treeError? layers with
  | none => rfl
  | some e => rw [flatten_eq_error.2 (treeError_eq_some.1 htree)] at h; cases h

/-- Flattening gives items exactly for a forest, and they are those of its pre-order; otherwise it gives
the first problem of the list. It is never the bound on its depth that ends the walk: with distinct ids
any larger bound gives the same visits, whatever cycles there are. -/
theorem flatten_is_preorder_of_forest (layers : List Layer) (image : ImageInfo)
    (includeGroups : Bool) :
    ((∃ items, flatten layers image includeGroups = .ok items) ↔ IsForest layers) ∧
      (∀ items, flatten layers image includeGroups = .ok items ↔
        IsForest layers ∧ ∃ sequence, IsPreorder layers sequence ∧
          items = itemsOf image includeGroups sequence) ∧
      (∀ e, flatten layers image includeGroups = .error e ↔ FirstProblem layers e) ∧
      ((layers.map Layer.id).Nodup → ∀ depth, layers.length ≤ depth →
        below layers depth none [] = walk layers) := by
  refine ⟨⟨?_, ?_⟩, fun items => ⟨?_, ?_⟩, fun e => flatten_eq_error,
    fun distinct _ => below_eq_walk distinct⟩
  · rintro ⟨items, h⟩
    exact isForest_of_flatten h
  · intro h
    exact ⟨_, flatten_of_isForest h image includeGroups⟩
  · intro h
    have hforest := isForest_of_flatten h
    rw [flatten_of_isForest hforest] at h
    exact ⟨hforest, visits layers, isPreorder_visits hforest, (Except.ok.inj h).symm⟩
  · rintro ⟨hforest, sequence, hsequence, rfl⟩
    rw [flatten_of_isForest hforest,
      (isPreorder_visits hforest).unique hforest.distinct hsequence]

/-- A layer of a given name at a given place, with nothing else to tell of it. -/
def named (name : String) (kind : LayerKind) (id : Nat) (parent : Option Nat) : Layer where
  id := (id : Nat)
  name := text name
  kind := kind
  parent := parent.map fun parent => (parent : Nat)
  tags := []
  width := 0
  height := 0
  x := 0
  y := 0

/-- Layers listed before their groups, an empty group, and, in a second list, a cycle beside a root. -/
theorem flatten_children_before_groups :
    let arm := named "Arm" .pixels 3 (some 1)
    let body := named "Body" .group 1 (some 2)
    let empty := named "Empty" .group 4 none
    let top := named "Top" .group 2 none
    let leg := named "Leg" .pixels 5 (some 2)
    let forest := [arm, body, empty, top, leg]
    let visited : List Visit :=
      [⟨[], empty⟩, ⟨[], top⟩, ⟨[top], body⟩, ⟨[top, body], arm⟩, ⟨[top], leg⟩]
    let cyclic := [named "A" .group 1 (some 2), named "B" .group 2 (some 1), named "C" .pixels 3 none]
    (IsForest forest ∧ ∃ sequence, IsPreorder forest sequence ∧
        visited.map (Visit.item {}) = itemsOf {} true sequence) ∧
      FirstProblem cyclic (.cycle 1) ∧ below cyclic 4 none [] = walk cyclic := by
  intro arm body empty top leg forest visited cyclic
  obtain ⟨-, hitems, -, -⟩ := flatten_is_preorder_of_forest forest {} true
  obtain ⟨-, -, herror, hbound⟩ := flatten_is_preorder_of_forest cyclic {} true
  exact ⟨(hitems _).1 (by decide +kernel), (herror _).1 (by decide +kernel),
    hbound (by decide +kernel) 4 (by decide)⟩

end NamePattern.Layer
