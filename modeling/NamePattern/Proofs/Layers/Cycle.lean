import Mathlib.Data.Fintype.Card
import Mathlib.Data.Set.Finite.Basic
import NamePattern.Proofs.Layers.Preorder

/-!
Cycles among the parents of a list of layers. A layer without a lineage need not lie on a cycle: it may
hang off one, at any distance. What can be said is that its parents lead to a cycle, since the list is
finite and they never come to a layer without a parent. So the layer that a report of a cycle names is the
first one whose parents lead to a cycle, and it lies on a cycle itself unless a layer that hangs off one is
listed before all those that lie on one.
-/

namespace NamePattern.Layer

/-- The first layer names the second one as its parent. -/
structure LiesIn (layers : List Layer) (l p : Layer) : Prop where
  mem : l ∈ layers
  parent_mem : p ∈ layers
  parent_eq : l.parent = some p.id

/-- Following parents from a layer, one or more times, leads back to it. -/
def OnCycle (layers : List Layer) (l : Layer) : Prop := Relation.TransGen (LiesIn layers) l l

/-- Following parents from a layer leads to one on a cycle, which may be the layer itself. -/
def LeadsToCycle (layers : List Layer) (l : Layer) : Prop :=
  ∃ c, Relation.ReflTransGen (LiesIn layers) l c ∧ OnCycle layers c

variable {layers : List Layer} {l : Layer}

theorem OnCycle.leadsToCycle (h : OnCycle layers l) : LeadsToCycle layers l := ⟨l, .refl, h⟩

/-- A layer whose parent leads to a cycle does so too. -/
theorem LiesIn.leadsToCycle {p : Layer} (h : LiesIn layers l p) (hp : LeadsToCycle layers p) :
    LeadsToCycle layers l := by
  obtain ⟨c, hpath, hcycle⟩ := hp
  exact ⟨c, .head h hpath, hcycle⟩

/-! ### A layer with a lineage leads to no cycle -/

namespace Lineage
variable {above : List Layer} (distinct : (layers.map Layer.id).Nodup)
include distinct

/-- The parent is the last layer above. -/
theorem exists_of_liesIn {p : Layer} (h : Lineage layers above l) (hp : LiesIn layers l p) :
    ∃ front, above = front ++ [p] ∧ Lineage layers front p := by
  cases h with
  | root _ hparent => cases hparent.symm.trans hp.parent_eq
  | @child front q _ hq _ hparent =>
    have hid := Option.some.inj (hparent.symm.trans hp.parent_eq)
    obtain rfl := eq_of_id_eq distinct hq.mem hp.parent_mem hid
    exact ⟨front, rfl, hq⟩

/-- Following parents stays among the layers above. -/
theorem exists_of_transGen {a : Layer} (h : Lineage layers above l)
    (ha : Relation.TransGen (LiesIn layers) l a) :
    ∃ front back, above = front ++ a :: back ∧ Lineage layers front a := by
  induction ha with
  | single hp =>
    obtain ⟨front, rfl, hfront⟩ := h.exists_of_liesIn distinct hp
    exact ⟨front, [], rfl, hfront⟩
  | @tail b c _ hp ih =>
    obtain ⟨front, back, rfl, hb⟩ := ih
    obtain ⟨more, rfl, hc⟩ := hb.exists_of_liesIn distinct hp
    exact ⟨more, b :: back, by simp, hc⟩

theorem not_onCycle (h : Lineage layers above l) : ¬ OnCycle layers l := by
  intro hcycle
  obtain ⟨front, back, habove, -⟩ := h.exists_of_transGen distinct hcycle
  exact h.notMem distinct (by simp [habove])

theorem not_leadsToCycle (h : Lineage layers above l) : ¬ LeadsToCycle layers l := by
  rintro ⟨c, hpath, hcycle⟩
  rcases Relation.reflTransGen_iff_eq_or_transGen.1 hpath with rfl | hpath
  · exact h.not_onCycle distinct hcycle
  · obtain ⟨_, _, _, hc⟩ := h.exists_of_transGen distinct hpath
    exact hc.not_onCycle distinct hcycle

end Lineage

/-! ### A layer that leads to no cycle has a lineage -/

/-- Among finitely many layers that lead to no cycle, going up comes to an end. -/
theorem wellFounded_of_not_leadsToCycle (layers : List Layer) :
    WellFounded fun a b : { l // l ∈ layers ∧ ¬ LeadsToCycle layers l } =>
      Relation.TransGen (LiesIn layers) b.1 a.1 := by
  have hfinite : Finite { l // l ∈ layers ∧ ¬ LeadsToCycle layers l } :=
    (layers.finite_toSet.subset fun _ h => h.1).to_subtype
  have htrans : IsTrans { l // l ∈ layers ∧ ¬ LeadsToCycle layers l }
      fun a b => Relation.TransGen (LiesIn layers) b.1 a.1 := ⟨fun _ _ _ hab hbc => hbc.trans hab⟩
  have hirrefl : Std.Irrefl fun a b : { l // l ∈ layers ∧ ¬ LeadsToCycle layers l } =>
      Relation.TransGen (LiesIn layers) b.1 a.1 :=
    ⟨fun a hcycle => a.2.2 (OnCycle.leadsToCycle hcycle)⟩
  exact Finite.wellFounded_of_trans_of_irrefl _

theorem exists_lineage (grouped : ∀ l ∈ layers, HasGroup layers l) (hl : l ∈ layers)
    (hleads : ¬ LeadsToCycle layers l) : ∃ above, Lineage layers above l := by
  suffices hall : ∀ a : { l // l ∈ layers ∧ ¬ LeadsToCycle layers l },
      ∃ above, Lineage layers above a.1 from hall ⟨l, hl, hleads⟩
  intro a
  induction a using (wellFounded_of_not_leadsToCycle layers).induction with
  | _ a ih =>
    obtain ⟨l, hl, hleads⟩ := a
    cases hparent : l.parent with
    | none => exact ⟨[], .root hl hparent⟩
    | some id =>
      obtain ⟨p, hp, rfl, -⟩ := grouped l hl id hparent
      have hin : LiesIn layers l p := ⟨hl, hp, hparent⟩
      obtain ⟨above, habove⟩ := ih ⟨p, hp, fun h => hleads (hin.leadsToCycle h)⟩ (.single hin)
      exact ⟨above ++ [p], .child habove hl hparent⟩

/-- The layers without a lineage are those whose parents lead to a cycle. -/
theorem leadsToCycle_iff (distinct : (layers.map Layer.id).Nodup)
    (grouped : ∀ l ∈ layers, HasGroup layers l) (hl : l ∈ layers) :
    LeadsToCycle layers l ↔ ∀ above, ¬ Lineage layers above l := by
  constructor
  · intro hleads above h
    exact h.not_leadsToCycle distinct hleads
  · intro rootless
    by_contra hleads
    obtain ⟨above, h⟩ := exists_lineage grouped hl hleads
    exact rootless above h

/-! ### The report -/

/-- The first layer of the list whose parents lead to a cycle. -/
def FirstToLead (layers : List Layer) (l : Layer) : Prop :=
  ∃ before after, layers = before ++ l :: after ∧ LeadsToCycle layers l ∧
    ∀ b ∈ before, ¬ LeadsToCycle layers b

/-- Following parents from a layer leads to a cycle on which the layer itself does not lie. -/
def HangsOff (layers : List Layer) (l : Layer) : Prop :=
  LeadsToCycle layers l ∧ ¬ OnCycle layers l

theorem FirstToLead.mem (h : FirstToLead layers l) : l ∈ layers := by
  obtain ⟨before, after, rfl, -⟩ := h
  simp

/-- A cycle is reported just if the other checks pass and some layer leads to one. -/
theorem flatten_eq_cycle {image : ImageInfo} {includeGroups : Bool} {id : Binary64} :
    flatten layers image includeGroups = .error (.cycle id) ↔
      (layers.map Layer.id).Nodup ∧ (∀ l ∈ layers, HasGroup layers l) ∧
        ∃ l, FirstToLead layers l ∧ l.id = id := by
  rw [flatten_eq_error]
  constructor
  · intro h
    cases h with
    | @noRoot distinct grouped before l after split rooted rootless =>
      have hl : l ∈ layers := by simp [split]
      refine ⟨distinct, grouped, l, ⟨before, after, split, ?_, fun b hb => ?_⟩, rfl⟩
      · exact (leadsToCycle_iff distinct grouped hl).2 rootless
      · obtain ⟨above, habove⟩ := rooted b hb
        exact habove.not_leadsToCycle distinct
  · rintro ⟨distinct, grouped, l, ⟨before, after, split, hleads, hbefore⟩, rfl⟩
    have hl : l ∈ layers := by simp [split]
    refine .noRoot distinct grouped split (fun b hb => ?_) ?_
    · have hb' : b ∈ layers := by simp [split, hb]
      exact exists_lineage grouped hb' (hbefore b hb)
    · exact (leadsToCycle_iff distinct grouped hl).1 hleads

/-- Of two places in a list the second one has the first one's layer before it, unless it comes first or
is the same. -/
theorem mem_before_of_split {before after front back : List Layer} {a b : Layer}
    (h : before ++ a :: after = front ++ b :: back) (hne : b ≠ a) (hb : b ∉ before) : a ∈ front := by
  rcases List.append_eq_append_iff.1 h with ⟨_ | ⟨c, more⟩, rfl, hrest⟩ | ⟨_ | ⟨c, more⟩, rfl, hrest⟩
  · exact absurd (List.cons.inj hrest).1.symm hne
  · simp [(List.cons.inj hrest).1]
  · exact absurd (List.cons.inj hrest).1 hne
  · exact absurd (by simp [(List.cons.inj hrest).1]) hb

/-- The first layer that leads to a cycle lies on one unless a layer that hangs off a cycle comes before
all that lie on one. -/
theorem FirstToLead.onCycle_iff (h : FirstToLead layers l) :
    OnCycle layers l ↔ ∀ front m back, layers = front ++ m :: back → HangsOff layers m →
      ∃ b ∈ front, OnCycle layers b := by
  obtain ⟨before, after, split, hleads, hbefore⟩ := h
  constructor
  · rintro hcycle front m back hsplit ⟨hm, hoff⟩
    refine ⟨l, mem_before_of_split (split.symm.trans hsplit) ?_ fun hmem => hbefore m hmem hm, hcycle⟩
    rintro rfl
    exact hoff hcycle
  · intro hall
    by_contra hoff
    obtain ⟨b, hb, hcycle⟩ := hall before l after split ⟨hleads, hoff⟩
    exact hbefore b hb hcycle.leadsToCycle

/-- What lies on a cycle is a parent, so it is a group. -/
theorem OnCycle.kind_eq (distinct : (layers.map Layer.id).Nodup)
    (grouped : ∀ l ∈ layers, HasGroup layers l) (h : OnCycle layers l) : l.kind = .group := by
  obtain ⟨b, -, hb⟩ := Relation.TransGen.tail'_iff.1 h
  exact kind_of_parent distinct hb.parent_mem (grouped b hb.mem) hb.parent_eq

/-- A report of a cycle names the first layer whose parents lead to a cycle, and there is such a report
whenever ids differ, parents are listed groups and some layer leads to a cycle. The layer itself lies on a
cycle just if each layer that hangs off a cycle is listed behind one that lies on one; so a layer that is
no group never does. -/
theorem reported_layer_leads_to_cycle (layers : List Layer) (image : ImageInfo)
    (includeGroups : Bool) (id : Binary64) :
    (flatten layers image includeGroups = .error (.cycle id) ↔
      (layers.map Layer.id).Nodup ∧ (∀ l ∈ layers, HasGroup layers l) ∧
        ∃ l, FirstToLead layers l ∧ l.id = id) ∧
      (flatten layers image includeGroups = .error (.cycle id) →
        ((∃ l ∈ layers, l.id = id ∧ OnCycle layers l) ↔
          ∀ front m back, layers = front ++ m :: back → HangsOff layers m →
            ∃ b ∈ front, OnCycle layers b) ∧
        ∀ l ∈ layers, l.id = id → l.kind = .pixels → HangsOff layers l) := by
  refine ⟨flatten_eq_cycle, fun hreport => ?_⟩
  obtain ⟨distinct, grouped, l, hfirst, rfl⟩ := flatten_eq_cycle.1 hreport
  have hsame : ∀ m ∈ layers, m.id = l.id → m = l :=
    fun m hm hid => eq_of_id_eq distinct hm hfirst.mem hid
  refine ⟨?_, fun m hm hid hkind => ?_⟩
  · rw [← hfirst.onCycle_iff]
    constructor
    · rintro ⟨m, hm, hid, hcycle⟩
      rwa [← hsame m hm hid]
    · exact fun hcycle => ⟨l, hfirst.mem, rfl, hcycle⟩
  · obtain rfl := hsame m hm hid
    obtain ⟨-, -, -, hleads, -⟩ := hfirst
    refine ⟨hleads, fun hcycle => ?_⟩
    rw [hcycle.kind_eq distinct grouped] at hkind
    cases hkind

/-- Two groups that lie in each other, listed before a layer in one of them. -/
theorem layer_behind_its_cycle_is_not_reported :
    let body := named "Body" .group 1 (some 2)
    let top := named "Top" .group 2 (some 1)
    let arm := named "Arm" .pixels 3 (some 1)
    let layers := [body, top, arm]
    flatten layers {} false = .error (.cycle 1) ∧ (∃ l, FirstToLead layers l ∧ l.id = 1) ∧
      ∃ l ∈ layers, l.id = 1 ∧ OnCycle layers l := by
  intro body top arm layers
  have hreport : flatten layers {} false = .error (.cycle 1) := by decide +kernel
  have hup : LiesIn layers body top := ⟨by simp [layers], by simp [layers], rfl⟩
  have hdown : LiesIn layers top body := ⟨by simp [layers], by simp [layers], rfl⟩
  have hbody : OnCycle layers body := .tail (.single hup) hdown
  obtain ⟨hfirst, honCycle⟩ := reported_layer_leads_to_cycle layers {} false 1
  refine ⟨hreport, (hfirst.1 hreport).2.2, (honCycle hreport).1.2 ?_⟩
  rintro (_ | ⟨x, front⟩) m back hsplit ⟨-, hoff⟩
  · obtain ⟨rfl, -⟩ := List.cons.inj hsplit
    exact absurd hbody hoff
  · obtain ⟨rfl, -⟩ := List.cons.inj hsplit
    exact ⟨body, by simp, hbody⟩

/-- A layer in a group that is its own parent is reported if it is listed first, and lies on no cycle. -/
theorem layer_off_a_cycle_is_reported :
    let arm := named "Arm" .pixels 1 (some 2)
    let body := named "Body" .group 2 (some 2)
    flatten [arm, body] {} false = .error (.cycle 1) ∧
      ¬ ∃ l ∈ [arm, body], l.id = 1 ∧ OnCycle [arm, body] l := by
  intro arm body
  have hreport : flatten [arm, body] {} false = .error (.cycle 1) := by decide +kernel
  obtain ⟨distinct, grouped, -⟩ := flatten_eq_cycle.1 hreport
  refine ⟨hreport, ?_⟩
  rintro ⟨l, hl, hid, hcycle⟩
  have harm : l = arm := eq_of_id_eq distinct hl (by simp) hid
  have hkind := hcycle.kind_eq distinct grouped
  rw [harm] at hkind
  cases hkind

end NamePattern.Layer
