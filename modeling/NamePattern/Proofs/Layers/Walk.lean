import NamePattern.Proofs.Layers.Lineage

/-!
The walk through a list of layers. A visit keeps the layers above a layer, of which the walk itself only
keeps the names. From the layers without a parent the walk meets exactly the layers that have a
lineage, one lineage at a time in the order of `Visit.address`; as lineages are shorter than the list, the
bound on its depth never ends it.
-/

namespace NamePattern.Layer

/-- A layer met on a walk, with the layers above it. -/
structure Visit where
  above : List Layer
  layer : Layer

namespace Visit

/-- The layers above and the layer itself. -/
def chain (visit : Visit) : List Layer := visit.above ++ [visit.layer]

/-- Where the layer stands: the positions in the list of the layers above and of itself. A shorter
address comes before those that it begins. -/
def address (layers : List Layer) (visit : Visit) : List Nat := visit.chain.map (layers.idxOf ·)

/-- The item of the layer: its path names the layers above, and all else is the layer's own. -/
def item (image : ImageInfo) (visit : Visit) : Item where
  name := visit.layer.name
  path := visit.above.map Layer.name
  tags := TagSet.ofList visit.layer.tags
  isGroup := visit.layer.kind = .group
  width := visit.layer.width
  height := visit.layer.height
  x := visit.layer.x
  y := visit.layer.y
  image := image

end Visit

/-- The layers right below the last one of some layers, or those without a parent. -/
def members (layers above : List Layer) : List Layer :=
  layers.filter fun l => l.parent = above.getLast?.map Layer.id

/-- The visits below the last one of some layers, at most `depth` levels deep. -/
def visitsBelow (layers : List Layer) (depth : Nat) (above : List Layer) : List Visit :=
  match depth with
  | 0 => []
  | depth + 1 =>
    (members layers above).flatMap fun l =>
      ⟨above, l⟩ ::
        match l.kind with
        | .group => visitsBelow layers depth (above ++ [l])
        | .pixels => []

/-- The visits below a layer, which are there only if it is a group. -/
def visitsInside (layers : List Layer) (depth : Nat) (above : List Layer) (l : Layer) : List Visit :=
  match l.kind with
  | .group => visitsBelow layers depth (above ++ [l])
  | .pixels => []

/-- The visits of the whole walk. -/
def visits (layers : List Layer) : List Visit := visitsBelow layers layers.length []

theorem below_eq_map (layers : List Layer) (depth : Nat) (above : List Layer) :
    below layers depth (above.getLast?.map Layer.id) (above.map Layer.name)
      = (visitsBelow layers depth above).map fun v => (v.layer, v.above.map Layer.name) := by
  induction depth generalizing above with
  | zero => rfl
  | succ depth ih =>
    rw [below, visitsBelow, List.map_flatMap]
    refine List.flatMap_congr fun l _ => ?_
    cases hkind : l.kind with
    | pixels => rfl
    | group =>
      have hinner := ih (above ++ [l])
      rw [List.getLast?_concat, List.map_append, List.map_singleton] at hinner
      rw [List.map_cons, ← hinner]
      rfl

theorem walk_eq_map (layers : List Layer) :
    walk layers = (visits layers).map fun v => (v.layer, v.above.map Layer.name) :=
  below_eq_map layers layers.length []

variable {layers : List Layer}

theorem visitsBelow_succ (layers : List Layer) (depth : Nat) (above : List Layer) :
    visitsBelow layers (depth + 1) above
      = (members layers above).flatMap fun l => ⟨above, l⟩ :: visitsInside layers depth above l :=
  rfl

theorem mem_visitsInside {depth : Nat} {above : List Layer} {l : Layer} {v : Visit} :
    v ∈ visitsInside layers depth above l ↔
      l.kind = .group ∧ v ∈ visitsBelow layers depth (above ++ [l]) := by
  rw [visitsInside]
  cases l.kind <;> simp

theorem mem_visitsBelow_succ {depth : Nat} {above : List Layer} {v : Visit} :
    v ∈ visitsBelow layers (depth + 1) above ↔ ∃ l ∈ members layers above,
      v = ⟨above, l⟩ ∨ l.kind = .group ∧ v ∈ visitsBelow layers depth (above ++ [l]) := by
  rw [visitsBelow_succ, List.mem_flatMap]
  refine exists_congr fun l => and_congr_right fun _ => ?_
  rw [List.mem_cons, mem_visitsInside]

/-! ### Which layers are met -/

/-- Layers lead on if they are the lineage of every layer right below them. -/
def Leads (layers above : List Layer) : Prop := ∀ l ∈ members layers above, Lineage layers above l

theorem mem_members {above : List Layer} {l : Layer} :
    l ∈ members layers above ↔ l ∈ layers ∧ l.parent = above.getLast?.map Layer.id := by
  rw [members, List.mem_filter, decide_eq_true_iff]

theorem leads_nil : Leads layers [] := by
  intro l hl
  obtain ⟨hmem, hparent⟩ := mem_members.1 hl
  exact .root hmem hparent

theorem Lineage.leads {above : List Layer} {p : Layer} (h : Lineage layers above p) :
    Leads layers (above ++ [p]) := by
  intro l hl
  obtain ⟨hmem, hparent⟩ := mem_members.1 hl
  rw [List.getLast?_concat] at hparent
  exact .child h hmem hparent

theorem Lineage.mem_members {above : List Layer} {l : Layer} (h : Lineage layers above l) :
    l ∈ members layers above :=
  Layer.mem_members.2 ⟨h.mem, h.parent_eq⟩

/-- What is met below some layers is below them. -/
theorem chain_of_mem {depth : Nat} {above : List Layer} {v : Visit}
    (h : v ∈ visitsBelow layers depth above) : ∃ l more, v.chain = above ++ l :: more := by
  induction depth generalizing above with
  | zero => cases h
  | succ depth ih =>
    obtain ⟨l, -, rfl | ⟨-, hinner⟩⟩ := mem_visitsBelow_succ.1 h
    · exact ⟨l, [], rfl⟩
    · obtain ⟨next, more, hchain⟩ := ih hinner
      exact ⟨l, next :: more, by rw [hchain, List.append_assoc, List.singleton_append]⟩

theorem lineage_of_mem {depth : Nat} {above : List Layer} (hleads : Leads layers above) {v : Visit}
    (h : v ∈ visitsBelow layers depth above) : Lineage layers v.above v.layer := by
  induction depth generalizing above with
  | zero => cases h
  | succ depth ih =>
    obtain ⟨l, hl, rfl | ⟨-, hinner⟩⟩ := mem_visitsBelow_succ.1 h
    · exact hleads l hl
    · exact ih (hleads l hl).leads hinner

/-- Every lineage is met that is not too deep. -/
theorem mem_of_lineage (distinct : (layers.map Layer.id).Nodup)
    (grouped : ∀ l ∈ layers, HasGroup layers l) {above more : List Layer} {l : Layer}
    (h : Lineage layers (above ++ more) l) {depth : Nat} (hdepth : more.length < depth) :
    ⟨above ++ more, l⟩ ∈ visitsBelow layers depth above := by
  induction more generalizing above depth with
  | nil =>
    obtain ⟨depth, rfl⟩ := Nat.exists_eq_succ_of_ne_zero (Nat.ne_of_gt hdepth)
    rw [List.append_nil] at h ⊢
    exact mem_visitsBelow_succ.2 ⟨l, h.mem_members, Or.inl rfl⟩
  | cons a rest ih =>
    obtain ⟨depth, rfl⟩ := Nat.exists_eq_succ_of_ne_zero (Nat.ne_zero_of_lt hdepth)
    have ha := h.of_append
    have hrest : above ++ a :: rest = above ++ [a] ++ rest := List.append_cons above a rest
    rw [hrest] at h ⊢
    -- the layer after `a` is one whose parent is `a`, so `a` is a group
    have hkind : a.kind = .group := by
      obtain ⟨b, hb, hparent⟩ : ∃ b ∈ layers, b.parent = some a.id := by
        rcases rest with _ | ⟨b, tail⟩
        · rw [List.append_nil] at h
          exact ⟨l, h.mem, by rw [h.parent_eq, List.getLast?_concat]; rfl⟩
        · have hb := h.of_append
          exact ⟨b, hb.mem, by rw [hb.parent_eq, List.getLast?_concat]; rfl⟩
      exact kind_of_parent distinct ha.mem (grouped b hb) hparent
    have hinner := ih h (Nat.lt_of_succ_lt_succ hdepth)
    exact mem_visitsBelow_succ.2 ⟨a, ha.mem_members, Or.inr ⟨hkind, hinner⟩⟩

/-- The walk meets the layers that have a lineage, each with it. -/
theorem mem_visits (distinct : (layers.map Layer.id).Nodup)
    (grouped : ∀ l ∈ layers, HasGroup layers l) {v : Visit} :
    v ∈ visits layers ↔ Lineage layers v.above v.layer := by
  constructor
  · exact lineage_of_mem leads_nil
  · intro h
    have hbelow : Lineage layers ([] ++ v.above) v.layer := h
    exact mem_of_lineage distinct grouped hbelow (h.length_lt distinct)

/-! ### The bound on the depth -/

/-- Below layers that are as long as the bound allows there is nothing more to meet. -/
theorem members_eq_nil (distinct : (layers.map Layer.id).Nodup) {above : List Layer}
    (hleads : Leads layers above) (hlen : layers.length ≤ above.length) :
    members layers above = [] := by
  rw [List.eq_nil_iff_forall_not_mem]
  intro l hl
  have := (hleads l hl).length_lt distinct
  omega

theorem visitsBelow_of_le (distinct : (layers.map Layer.id).Nodup) {depth : Nat}
    {above : List Layer} (hleads : Leads layers above)
    (hdepth : layers.length ≤ above.length + depth) (extra : Nat) :
    visitsBelow layers (depth + extra) above = visitsBelow layers depth above := by
  induction depth generalizing above with
  | zero =>
    cases extra with
    | zero => rfl
    | succ extra =>
      rw [Nat.zero_add, visitsBelow_succ, members_eq_nil distinct hleads hdepth]
      rfl
  | succ depth ih =>
    rw [Nat.add_right_comm, visitsBelow_succ, visitsBelow_succ]
    refine List.flatMap_congr fun l hl => ?_
    have hlen : layers.length ≤ (above ++ [l]).length + depth := by
      rw [List.length_append, List.length_singleton]
      omega
    rw [visitsInside, visitsInside, ih (hleads l hl).leads hlen]

/-- A larger bound finds nothing more, so it is never the bound that ends the walk. -/
theorem below_eq_walk (distinct : (layers.map Layer.id).Nodup) {depth : Nat}
    (hdepth : layers.length ≤ depth) : below layers depth none [] = walk layers := by
  obtain ⟨extra, rfl⟩ := Nat.exists_eq_add_of_le hdepth
  have hlen : layers.length ≤ ([] : List Layer).length + layers.length := Nat.le_add_left _ _
  have hvisits := visitsBelow_of_le distinct leads_nil hlen extra
  have hbelow := below_eq_map layers (layers.length + extra) []
  rw [hvisits] at hbelow
  exact hbelow.trans (walk_eq_map layers).symm

/-! ### The order -/

theorem nodup_of_distinct (distinct : (layers.map Layer.id).Nodup) : layers.Nodup :=
  distinct.of_map Layer.id

theorem pairwise_idxOf_of_nodup (nodup : layers.Nodup) :
    layers.Pairwise fun a b => layers.idxOf a < layers.idxOf b := by
  refine List.pairwise_iff_getElem.2 fun i j hi hj hij => ?_
  rwa [nodup.idxOf_getElem i hi, nodup.idxOf_getElem j hj]

theorem pairwise_idxOf (distinct : (layers.map Layer.id).Nodup) (above : List Layer) :
    (members layers above).Pairwise fun a b => layers.idxOf a < layers.idxOf b :=
  (pairwise_idxOf_of_nodup (nodup_of_distinct distinct)).filter _

theorem address_lt_of_index {above : List Layer} {a b : Layer} {s t : List Layer} {v w : Visit}
    (hv : v.chain = above ++ a :: s) (hw : w.chain = above ++ b :: t)
    (h : layers.idxOf a < layers.idxOf b) : v.address layers < w.address layers := by
  rw [Visit.address, Visit.address, hv, hw, List.map_append, List.map_append]
  exact List.append_left_lt (List.cons_lt_cons_iff.2 (Or.inl h))

theorem address_lt_of_append {v w : Visit} {b : Layer} {t : List Layer}
    (h : w.chain = v.chain ++ b :: t) : v.address layers < w.address layers := by
  have hnext : w.address layers = v.address layers ++ layers.idxOf b :: t.map (layers.idxOf ·) := by
    rw [Visit.address, h, List.map_append, List.map_cons]
    rfl
  have hlt : v.address layers ++ [] < w.address layers := by
    rw [hnext]
    exact List.append_left_lt (List.nil_lt_cons _ _)
  rwa [List.append_nil] at hlt

theorem chain_of_mem_block {depth : Nat} {above : List Layer} {l : Layer} {v : Visit}
    (h : v ∈ (⟨above, l⟩ :: visitsInside layers depth above l : List Visit)) :
    ∃ more, v.chain = above ++ l :: more := by
  rcases List.mem_cons.1 h with rfl | hinside
  · exact ⟨[], rfl⟩
  · obtain ⟨b, t, hchain⟩ := chain_of_mem (mem_visitsInside.1 hinside).2
    exact ⟨b :: t, by rw [hchain, List.append_assoc, List.singleton_append]⟩

/-- The walk meets the layers in the order of their addresses. -/
theorem pairwise_visitsBelow (distinct : (layers.map Layer.id).Nodup) (depth : Nat)
    (above : List Layer) :
    (visitsBelow layers depth above).Pairwise fun v w => v.address layers < w.address layers := by
  induction depth generalizing above with
  | zero => exact List.Pairwise.nil
  | succ depth ih =>
    rw [visitsBelow_succ, List.pairwise_flatMap]
    constructor
    · -- a group comes before all that is below it
      intro l _
      refine List.pairwise_cons.2 ⟨fun w hw => ?_, ?_⟩
      · obtain ⟨b, t, hchain⟩ := chain_of_mem (mem_visitsInside.1 hw).2
        exact address_lt_of_append hchain
      · rw [visitsInside]
        cases l.kind with
        | group => exact ih (above ++ [l])
        | pixels => exact List.Pairwise.nil
    · -- and all that is below it before its next sibling
      refine (pairwise_idxOf distinct above).imp fun {a b} hab v hv w hw => ?_
      obtain ⟨s, hs⟩ := chain_of_mem_block hv
      obtain ⟨t, ht⟩ := chain_of_mem_block hw
      exact address_lt_of_index hs ht hab

end NamePattern.Layer
