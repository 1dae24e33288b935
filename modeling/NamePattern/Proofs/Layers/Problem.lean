import NamePattern.Proofs.Layers.Walk

/-!
What is wrong with a list of layers that is no forest. The checks come in this order: ids, parents,
lineages; each reports the first layer at fault. A list without a fault is a forest.
-/

namespace NamePattern.Layer

/-- The fault of a list of layers that is no forest. -/
inductive FirstProblem (layers : List Layer) : LayerTreeError → Prop
  | repeatedId {before l after} (split : layers = before ++ l :: after)
      (distinct : (before.map Layer.id).Nodup) (again : l.id ∈ before.map Layer.id) :
      FirstProblem layers (.duplicateId l.id)
  | strayParent (distinct : (layers.map Layer.id).Nodup) {before l after parent}
      (split : layers = before ++ l :: after) (grouped : ∀ b ∈ before, HasGroup layers b)
      (hparent : l.parent = some parent) (missing : parent ∉ layers.map Layer.id) :
      FirstProblem layers (.unknownParent l.id parent)
  | plainParent (distinct : (layers.map Layer.id).Nodup) {before l after p}
      (split : layers = before ++ l :: after) (grouped : ∀ b ∈ before, HasGroup layers b)
      (hp : p ∈ layers) (hparent : l.parent = some p.id) (plain : p.kind ≠ .group) :
      FirstProblem layers (.notAGroup p.id)
  | noRoot (distinct : (layers.map Layer.id).Nodup) (grouped : ∀ l ∈ layers, HasGroup layers l)
      {before l after} (split : layers = before ++ l :: after)
      (rooted : ∀ b ∈ before, ∃ above, Lineage layers above b)
      (rootless : ∀ above, ¬ Lineage layers above l) : FirstProblem layers (.cycle l.id)

variable {layers : List Layer}

/-! ### Ids -/

theorem duplicateId_go_eq_none {seen : List Binary64} :
    duplicateId?.go seen layers = none ↔
      (layers.map Layer.id).Nodup ∧ ∀ l ∈ layers, l.id ∉ seen := by
  induction layers generalizing seen with
  | nil => simp [duplicateId?.go]
  | cons l rest ih =>
    rw [duplicateId?.go, List.map_cons, List.nodup_cons, List.forall_mem_cons]
    by_cases hseen : l.id ∈ seen
    · simp [hseen]
    · rw [if_neg (by simpa using hseen), ih]
      constructor
      · rintro ⟨hnodup, hfresh⟩
        refine ⟨⟨?_, hnodup⟩, hseen, fun m hm hmem => hfresh m hm (List.mem_cons_of_mem _ hmem)⟩
        intro hid
        obtain ⟨m, hm, heq⟩ := List.mem_map.1 hid
        exact hfresh m hm (List.mem_cons.2 (Or.inl heq))
      · rintro ⟨⟨hid, hnodup⟩, -, hfresh⟩
        refine ⟨hnodup, fun m hm hmem => ?_⟩
        rcases List.mem_cons.1 hmem with heq | hmem
        · exact hid (List.mem_map.2 ⟨m, hm, heq⟩)
        · exact hfresh m hm hmem

theorem duplicateId_go_append {seen : List Binary64} {before : List Layer}
    (h : duplicateId?.go seen before = none) (rest : List Layer) :
    duplicateId?.go seen (before ++ rest)
      = duplicateId?.go ((before.map Layer.id).reverse ++ seen) rest := by
  induction before generalizing seen with
  | nil => rfl
  | cons l more ih =>
    rw [duplicateId?.go] at h
    split at h
    · cases h
    · next hseen =>
      rw [List.cons_append, duplicateId?.go, if_neg hseen, ih h, List.map_cons, List.reverse_cons,
        List.append_assoc, List.singleton_append]

theorem duplicateId_go_eq_some {seen : List Binary64} {id : Binary64}
    (h : duplicateId?.go seen layers = some id) : ∃ before l after,
      layers = before ++ l :: after ∧ duplicateId?.go seen before = none ∧ l.id = id ∧
        (id ∈ before.map Layer.id ∨ id ∈ seen) := by
  induction layers generalizing seen with
  | nil => cases h
  | cons l rest ih =>
    rw [duplicateId?.go] at h
    split at h
    · next hseen =>
      cases h
      exact ⟨[], l, rest, rfl, rfl, rfl, Or.inr (List.contains_iff_mem.1 hseen)⟩
    · next hseen =>
      obtain ⟨before, m, after, rfl, hbefore, hid, hagain⟩ := ih h
      refine ⟨l :: before, m, after, rfl, ?_, hid, ?_⟩
      · rw [duplicateId?.go, if_neg hseen, hbefore]
      · rw [List.map_cons, List.mem_cons]
        rcases hagain with hagain | hagain
        · exact Or.inl (Or.inr hagain)
        · exact (List.mem_cons.1 hagain).imp_left Or.inl

theorem duplicateId_eq_none : duplicateId? layers = none ↔ (layers.map Layer.id).Nodup := by
  rw [duplicateId?, duplicateId_go_eq_none]
  simp

theorem duplicateId_eq_some {id : Binary64} : duplicateId? layers = some id ↔
    ∃ before l after, layers = before ++ l :: after ∧ (before.map Layer.id).Nodup ∧ l.id = id ∧
      id ∈ before.map Layer.id := by
  rw [duplicateId?]
  constructor
  · intro h
    obtain ⟨before, l, after, rfl, hbefore, hid, hagain⟩ := duplicateId_go_eq_some h
    exact ⟨before, l, after, rfl, duplicateId_eq_none.1 hbefore, hid,
      hagain.resolve_right List.not_mem_nil⟩
  · rintro ⟨before, l, after, rfl, hdistinct, rfl, hagain⟩
    rw [duplicateId_go_append (duplicateId_eq_none.2 hdistinct), List.append_nil, duplicateId?.go,
      if_pos (by simpa using hagain)]

/-! ### Parents -/

theorem find_id_eq_some (distinct : (layers.map Layer.id).Nodup) {id : Binary64} {p : Layer} :
    layers.find? (fun m => m.id = id) = some p ↔ p ∈ layers ∧ p.id = id := by
  constructor
  · intro h
    exact ⟨List.mem_of_find?_eq_some h, by simpa using List.find?_some h⟩
  · rintro ⟨hp, rfl⟩
    cases h : layers.find? fun m => m.id = p.id with
    | none => exact absurd (decide_eq_true rfl) (List.find?_eq_none.1 h p hp)
    | some found =>
      have hid : found.id = p.id := by simpa using List.find?_some h
      rw [eq_of_id_eq distinct (List.mem_of_find?_eq_some h) hp hid]

theorem find_id_eq_none {id : Binary64} :
    layers.find? (fun m => m.id = id) = none ↔ id ∉ layers.map Layer.id := by
  simp [List.find?_eq_none]

theorem parentError_eq_unknown {l : Layer} {parent : Binary64} (hparent : l.parent = some parent)
    (missing : parent ∉ layers.map Layer.id) :
    parentError? layers l = some (.unknownParent l.id parent) := by
  rw [parentError?, hparent, Option.bind_some, find_id_eq_none.2 missing]

theorem parentError_of_listed (distinct : (layers.map Layer.id).Nodup) {l p : Layer}
    (hp : p ∈ layers) (hparent : l.parent = some p.id) :
    parentError? layers l = if p.kind = .group then none else some (.notAGroup p.id) := by
  rw [parentError?, hparent, Option.bind_some, (find_id_eq_some distinct).2 ⟨hp, rfl⟩]

theorem parentError_eq_none (distinct : (layers.map Layer.id).Nodup) {l : Layer} :
    parentError? layers l = none ↔ HasGroup layers l := by
  constructor
  · intro h id hparent
    by_cases hlisted : id ∈ layers.map Layer.id
    · obtain ⟨p, hp, rfl⟩ := List.mem_map.1 hlisted
      rw [parentError_of_listed distinct hp hparent] at h
      split at h
      · next hkind => exact ⟨p, hp, rfl, hkind⟩
      · cases h
    · rw [parentError_eq_unknown hparent hlisted] at h
      cases h
  · intro h
    cases hparent : l.parent with
    | none => rw [parentError?, hparent]; rfl
    | some id =>
      obtain ⟨p, hp, rfl, hkind⟩ := h id hparent
      rw [parentError_of_listed distinct hp hparent, if_pos hkind]

theorem firstProblem_of_parentError (distinct : (layers.map Layer.id).Nodup)
    {before after : List Layer} {l : Layer} (split : layers = before ++ l :: after)
    (grouped : ∀ b ∈ before, HasGroup layers b) {e : LayerTreeError}
    (h : parentError? layers l = some e) : FirstProblem layers e := by
  obtain ⟨parent, hparent, -⟩ := Option.bind_eq_some_iff.1 h
  by_cases hlisted : parent ∈ layers.map Layer.id
  · obtain ⟨p, hp, rfl⟩ := List.mem_map.1 hlisted
    rw [parentError_of_listed distinct hp hparent] at h
    split at h
    · cases h
    · next plain =>
      cases h
      exact .plainParent distinct split grouped hp hparent plain
  · rw [parentError_eq_unknown hparent hlisted] at h
    cases h
    exact .strayParent distinct split grouped hparent hlisted

/-! ### Lineages -/

/-- The walk passes over the layers without a lineage. -/
theorem contains_reached (distinct : (layers.map Layer.id).Nodup)
    (grouped : ∀ l ∈ layers, HasGroup layers l) {l : Layer} (hl : l ∈ layers) :
    ((walk layers).map fun visit => visit.1.id).contains l.id = true ↔
      ∃ above, Lineage layers above l := by
  rw [walk_eq_map, List.map_map, List.contains_iff_mem, List.mem_map]
  constructor
  · rintro ⟨v, hv, hid⟩
    have hlineage := (mem_visits distinct grouped).1 hv
    rw [← eq_of_id_eq distinct hlineage.mem hl hid]
    exact ⟨v.above, hlineage⟩
  · rintro ⟨above, h⟩
    exact ⟨⟨above, l⟩, (mem_visits distinct grouped).2 h, rfl⟩

theorem unreached_eq_none (distinct : (layers.map Layer.id).Nodup)
    (grouped : ∀ l ∈ layers, HasGroup layers l) :
    unreached? layers = none ↔ ∀ l ∈ layers, ∃ above, Lineage layers above l := by
  rw [unreached?, List.find?_eq_none]
  refine forall₂_congr fun l hl => ?_
  rw [← contains_reached distinct grouped hl]
  simp

theorem unreached_eq_some (distinct : (layers.map Layer.id).Nodup)
    (grouped : ∀ l ∈ layers, HasGroup layers l) {l : Layer} : unreached? layers = some l ↔
      ∃ before after, layers = before ++ l :: after ∧
        (∀ b ∈ before, ∃ above, Lineage layers above b) ∧ ∀ above, ¬ Lineage layers above l := by
  rw [unreached?, List.find?_eq_some_iff_append, ← exists_and_left]
  refine exists_congr fun before => ?_
  rw [← exists_and_left]
  refine exists_congr fun after => ?_
  rw [and_left_comm]
  refine and_congr_right fun hsplit => ?_
  have hl : l ∈ layers := by rw [hsplit]; simp
  have hbefore : ∀ b ∈ before, b ∈ layers := by
    intro b hb
    rw [hsplit]
    exact List.mem_append_left _ hb
  have hlost := contains_reached distinct grouped hl
  rw [and_comm, Bool.not_eq_true', ← Bool.not_eq_true, hlost, not_exists]
  refine and_congr_left fun _ => forall₂_congr fun b hb => ?_
  rw [Bool.not_not, contains_reached distinct grouped (hbefore b hb)]

/-! ### All checks -/

theorem findSome_parentError_eq_none (distinct : (layers.map Layer.id).Nodup) :
    layers.findSome? (parentError? layers) = none ↔ ∀ l ∈ layers, HasGroup layers l := by
  rw [List.findSome?_eq_none_iff]
  exact forall₂_congr fun l _ => parentError_eq_none distinct

theorem firstProblem_of_treeError {e : LayerTreeError} (h : treeError? layers = some e) :
    FirstProblem layers e := by
  rw [treeError?] at h
  split at h
  · next id hids =>
    cases h
    obtain ⟨before, l, after, hsplit, hbefore, rfl, hagain⟩ := duplicateId_eq_some.1 hids
    exact .repeatedId hsplit hbefore hagain
  · next hids =>
    have distinct := duplicateId_eq_none.1 hids
    split at h
    · next found hparents =>
      cases h
      obtain ⟨before, l, after, hsplit, hfault, hbefore⟩ := List.findSome?_eq_some_iff.1 hparents
      refine firstProblem_of_parentError distinct hsplit (fun b hb => ?_) hfault
      exact (parentError_eq_none distinct).1 (hbefore b hb)
    · next hparents =>
      have grouped := (findSome_parentError_eq_none distinct).1 hparents
      obtain ⟨l, hl, rfl⟩ := Option.map_eq_some_iff.1 h
      obtain ⟨before, after, hsplit, rooted, rootless⟩ :=
        (unreached_eq_some distinct grouped).1 hl
      exact .noRoot distinct grouped hsplit rooted rootless

theorem treeError_of_parentError (distinct : (layers.map Layer.id).Nodup)
    {before after : List Layer} {l : Layer} (split : layers = before ++ l :: after)
    (grouped : ∀ b ∈ before, HasGroup layers b) {e : LayerTreeError}
    (h : parentError? layers l = some e) : treeError? layers = some e := by
  have hparents : layers.findSome? (parentError? layers) = some e := by
    refine List.findSome?_eq_some_iff.2 ⟨before, l, after, split, h, fun b hb => ?_⟩
    exact (parentError_eq_none distinct).2 (grouped b hb)
  rw [treeError?, duplicateId_eq_none.2 distinct, hparents]

/-- The error is the first problem. -/
theorem treeError_eq_some {e : LayerTreeError} :
    treeError? layers = some e ↔ FirstProblem layers e := by
  refine ⟨firstProblem_of_treeError, fun h => ?_⟩
  cases h with
  | repeatedId split distinct again =>
    rw [treeError?, duplicateId_eq_some.2 ⟨_, _, _, split, distinct, rfl, again⟩]
  | strayParent distinct split grouped hparent missing =>
    exact treeError_of_parentError distinct split grouped (parentError_eq_unknown hparent missing)
  | plainParent distinct split grouped hp hparent plain =>
    refine treeError_of_parentError distinct split grouped ?_
    rw [parentError_of_listed distinct hp hparent, if_neg plain]
  | noRoot distinct grouped split rooted rootless =>
    rw [treeError?, duplicateId_eq_none.2 distinct, (findSome_parentError_eq_none distinct).2 grouped,
      (unreached_eq_some distinct grouped).2 ⟨_, _, split, rooted, rootless⟩]
    rfl

/-- A list without a problem is a forest. -/
theorem treeError_eq_none : treeError? layers = none ↔ IsForest layers := by
  rw [treeError?]
  constructor
  · intro h
    split at h
    · cases h
    · next hids =>
      have distinct := duplicateId_eq_none.1 hids
      split at h
      · cases h
      · next hparents =>
        have grouped := (findSome_parentError_eq_none distinct).1 hparents
        rw [Option.map_eq_none_iff, unreached_eq_none distinct grouped] at h
        exact ⟨distinct, grouped, h⟩
  · rintro ⟨distinct, grouped, rooted⟩
    rw [duplicateId_eq_none.2 distinct, (findSome_parentError_eq_none distinct).2 grouped,
      (unreached_eq_none distinct grouped).2 rooted]
    rfl

end NamePattern.Layer
