import NamePattern.Proofs.Pattern.Depth

/-!
The groups of a pattern. `mem_groups_scan` says that the scan finds a group if and only if it stands in
the pattern, that is, where the depth leaves zero at an opening bracket and comes back at a closing
one. The groups are found in order and none of them overlaps another.
-/

namespace NamePattern

theorem Group.start_lt_stop (g : Group) : g.start < g.stop := by
  rw [Group.stop]
  omega

/-! ### What the depth says about a group -/

namespace Outside
variable {p t source after : Text} {start : Nat}

theorem depthAt_add (h : Outside p start t) (k : Nat) :
    depthAt p (start + k) = ((passFrom 0 t)[k]?).map Passed.depth := by
  rw [depthAt, h.getElem?]

theorem drop_eq (h : Outside p start t) : p.drop start = t := by
  rw [← map_unit_passFrom 0 p, ← List.map_drop, h.drop, map_unit_passFrom]

/-- The units of a closed group between its brackets are inside it. -/
theorem inside_of_group (h : Outside p start (openBracket :: t)) (hd : t.head? ≠ some openBracket)
    (hend : groupEnd 0 t = some (source, after)) (i : Nat) (hi : start < i)
    (hlast : i ≤ start + source.length) : ∃ x, (passFrom 0 p)[i]? = some x ∧ x.Inside := by
  obtain ⟨k, rfl⟩ : ∃ k, i = start + (k + 1) := ⟨i - start - 1, by omega⟩
  have hk : k < (passFrom 1 source).length := by rw [length_passFrom]; omega
  refine ⟨(passFrom 1 source)[k], ?_, inside_of_enclosed (enclosed_of_groupEnd 0 t source after hend)
    _ (List.getElem_mem hk)⟩
  rw [h.getElem?, passFrom_group hd hend, groupUnits, List.cons_append, List.getElem?_cons_succ,
    List.append_assoc, List.getElem?_append_left hk, List.getElem?_eq_getElem hk]

/-- In a group that is never closed every unit after the opening bracket is inside. -/
theorem inside_of_unclosed (h : Outside p start (openBracket :: t))
    (hd : t.head? ≠ some openBracket) (hend : groupEnd 0 t = none) (i : Nat) (hi : start < i)
    (hlast : i < p.length) : ∃ x, (passFrom 0 p)[i]? = some x ∧ x.Inside := by
  obtain ⟨k, rfl⟩ : ∃ k, i = start + (k + 1) := ⟨i - start - 1, by omega⟩
  have hlen := h.length_eq
  rw [List.length_cons] at hlen
  have hk : k < (passFrom 1 t).length := by rw [length_passFrom]; omega
  refine ⟨(passFrom 1 t)[k], ?_, inside_of_groupEnd_none 0 t hend _ (List.getElem_mem hk)⟩
  rw [h.getElem?, passFrom_open hd, List.getElem?_cons_succ, List.getElem?_eq_getElem hk]

/-- A closed group that the scan finds stands in the pattern. -/
theorem standsIn (h : Outside p start (openBracket :: t)) (hd : t.head? ≠ some openBracket)
    (hend : groupEnd 0 t = some (source, after)) : Group.StandsIn ⟨source, start⟩ p := by
  have hopen : (passFrom 0 p)[start]? = some ⟨openBracket, 0, false⟩ := by
    have hzero := h.getElem? 0
    rwa [passFrom_group hd hend] at hzero
  have hclose : (passFrom 0 p)[start + (source.length + 1)]? = some ⟨closeBracket, 1, false⟩ := by
    rw [h.getElem?, passFrom_group hd hend, groupUnits, List.cons_append, List.getElem?_cons_succ,
      List.append_assoc, ← length_passFrom 1 source, List.getElem?_append_right (Nat.le_refl _),
      Nat.sub_self]
    rfl
  have hstop : Group.stop ⟨source, start⟩ = start + (source.length + 1) := Nat.add_assoc _ _ _
  have ht := eq_of_groupEnd hend
  refine ⟨?_, ?_, ?_, ?_, ?_, ?_⟩
  · rw [getElem?_eq_map_unit, hopen]; rfl
  · rw [getElem?_eq_map_unit, hstop, hclose]; rfl
  · have htake : start + (source.length + 1) - (start + 1) = source.length := by omega
    rw [hstop, List.extract_eq_take_drop, htake, ← List.drop_drop, h.drop_eq, List.drop_one,
      List.tail_cons, ht, List.take_left]
  · rw [depthAt, hopen]; rfl
  · intro i hi hlast
    rw [hstop] at hlast
    rcases Nat.lt_or_ge i (start + (source.length + 1)) with hlt | hge
    · obtain ⟨x, hx, hinside, -⟩ := h.inside_of_group hd hend i hi (by omega)
      rw [depthAt, hx, Option.map_some, ne_eq, Option.some.injEq]
      omega
    · obtain rfl : i = start + (source.length + 1) := by omega
      rw [depthAt, hclose]
      simp
  · rw [depthAt, hstop, hclose]; rfl

/-- The units of a group's source are passed as those of a text at depth one. -/
theorem unitsIn_eq {g : Group} (h : Outside p g.start (openBracket :: t))
    (hd : t.head? ≠ some openBracket) (hend : groupEnd 0 t = some (g.source, after)) :
    g.unitsIn p = passFrom 1 g.source := by
  have hlen : g.stop - (g.start + 1) = (passFrom 1 g.source).length := by
    rw [length_passFrom, Group.stop]
    omega
  rw [Group.unitsIn, List.extract_eq_take_drop, ← List.drop_drop, h.drop, passFrom_group hd hend,
    groupUnits, hlen, List.cons_append, List.drop_one, List.tail_cons, List.append_assoc,
    List.take_left]

end Outside

namespace Group.StandsIn
variable {g : Group} {p t : Text} {i : Nat}

theorem stop_lt (hg : g.StandsIn p) : g.stop < p.length :=
  (List.getElem?_eq_some_iff.1 hg.closing).1

/-- A group lies on one side of every place outside. -/
theorem apart (hg : g.StandsIn p) (h : Outside p i t) : g.stop < i ∨ i ≤ g.start := by
  rcases Nat.lt_or_ge g.stop i with hlt | hle
  · exact Or.inl hlt
  rcases Nat.lt_or_ge g.start i with hlt | hge
  · have hdepth := hg.inside i hlt hle
    have hlen := h.length_eq
    have hstop := hg.stop_lt
    cases t with
    | nil => rw [List.length_nil] at hlen; omega
    | cons u rest =>
      have hzero := h.depthAt_add 0
      obtain ⟨more, hmore⟩ := exists_passFrom_cons 0 u rest
      rw [hmore] at hzero
      exact absurd hzero hdepth
  · exact Or.inr hge

/-- A unit inside a group neither begins nor ends one. -/
theorem ne_of_inside (hg : g.StandsIn p) {x : Passed} (hx : (passFrom 0 p)[i]? = some x)
    (hin : x.Inside) : g.start ≠ i ∧ g.stop ≠ i := by
  constructor
  · rintro rfl
    have hout := hg.outside
    rw [depthAt, hx, Option.map_some, Option.some.injEq] at hout
    have := hin.1
    omega
  · rintro rfl
    have hmatch := hg.matching
    have hunit := hg.closing
    rw [depthAt, hx, Option.map_some, Option.some.injEq] at hmatch
    rw [getElem?_eq_map_unit, hx, Option.map_some, Option.some.injEq] at hunit
    exact hin.2 hunit hmatch

/-- Where a group begins and ends says which group it is. -/
theorem eq_of_span {other : Group} (hg : g.StandsIn p) (ho : other.StandsIn p)
    (hstart : g.start = other.start) (hstop : g.stop = other.stop) : g = other := by
  have hsource : g.source = other.source := by rw [← hg.source, ← ho.source, hstart, hstop]
  obtain ⟨source, start⟩ := g
  obtain ⟨source', start'⟩ := other
  simp only at hsource hstart
  rw [hsource, hstart]

end Group.StandsIn

/-! ### The scan finds the groups that stand in the pattern -/

namespace Piece

theorem groups_prependLiteral (t : Text) (pieces : List Piece) :
    groups (prependLiteral t pieces) = groups pieces := by
  rcases pieces with _ | ⟨_ | _, _⟩ <;> rfl

theorem groups_group (g : Group) (pieces : List Piece) :
    groups (.group g :: pieces) = g :: groups pieces := rfl

/-- The scan reaches the opening bracket of each group it finds outside every other group. -/
theorem outside_of_mem (p : Text) (start : Nat) (t : Text) : Outside p start t →
    ∀ g ∈ groups (scanFrom start t), ∃ rest after, Outside p g.start (openBracket :: rest) ∧
      rest.head? ≠ some openBracket ∧ groupEnd 0 rest = some (g.source, after) := by
  induction start, t using scan_induction with
  | nil start => intro _ g hg; rw [scanFrom_nil] at hg; cases hg
  | doubled start u t hu ih =>
    intro h
    rw [scanFrom_doubled hu, groups_prependLiteral]
    exact ih (h.doubled hu)
  | single start u t ho hd ih =>
    intro h
    rw [scanFrom_single ho hd, groups_prependLiteral]
    exact ih (h.single ho hd)
  | group start t source after hd hend ih =>
    intro h
    rw [scanFrom_group hd hend, groups_group]
    exact List.forall_mem_cons.2 ⟨⟨t, after, h, hd, hend⟩, ih (h.group hd hend)⟩
  | unclosed start t hd hend => intro _ g hg; rw [scanFrom_unclosed hd hend] at hg; cases hg

theorem mem_groups_of_standsIn (p : Text) (g : Group) (hg : g.StandsIn p) (start : Nat) (t : Text) :
    Outside p start t → start ≤ g.start → g ∈ groups (scanFrom start t) := by
  have hlt := g.start_lt_stop
  induction start, t using scan_induction with
  | nil start =>
    intro h hle
    have hlen := h.length_eq
    have hstop := hg.stop_lt
    rw [List.length_nil] at hlen
    omega
  | doubled start u t hu ih =>
    intro h hle
    rw [scanFrom_doubled hu, groups_prependLiteral]
    refine ih (h.doubled hu) ?_
    rcases hg.apart (h.doubled hu) with hstop | hge
    · -- the group would be the doubled bracket itself, whose second unit stands at depth zero
      have hdepth := h.depthAt_add 1
      rw [passFrom_doubled hu (by decide)] at hdepth
      have hmatch := hg.matching
      obtain hs : g.stop = start + 1 := by omega
      rw [hs, hdepth] at hmatch
      cases hmatch
    · exact hge
  | single start u t ho hd ih =>
    intro h hle
    rw [scanFrom_single ho hd, groups_prependLiteral]
    refine ih (h.single ho hd) ?_
    rcases hg.apart (h.single ho hd) with hstop | hge
    · omega
    · exact hge
  | group start t source after hd hend ih =>
    intro h hle
    rw [scanFrom_group hd hend, groups_group]
    rcases hg.apart (h.group hd hend) with hstop | hge
    · have between : ∀ i, start < i → i ≤ start + source.length → g.start ≠ i ∧ g.stop ≠ i := by
        intro i hi hlast
        obtain ⟨x, hx, hin⟩ := h.inside_of_group hd hend i hi hlast
        exact hg.ne_of_inside hx hin
      have hstart : g.start = start := by
        rcases Nat.lt_or_ge start g.start with hgt | hge
        · exact absurd rfl (between g.start hgt (by omega)).1
        · omega
      have hend' : g.stop = start + source.length + 1 := by
        rcases Nat.lt_or_ge (start + source.length) g.stop with hgt | hge
        · omega
        · exact absurd rfl (between g.stop (by omega) hge).2
      have hsame : g = ⟨source, start⟩ := hg.eq_of_span (h.standsIn hd hend) hstart hend'
      rw [hsame]
      exact List.mem_cons_self ..
    · exact List.mem_cons_of_mem _ (ih (h.group hd hend) hge)
  | unclosed start t hd hend =>
    intro h hle
    obtain ⟨x, hx, hin⟩ := h.inside_of_unclosed hd hend g.stop (by omega) hg.stop_lt
    exact absurd rfl (hg.ne_of_inside hx hin).2

/-- The groups that the scan of a pattern finds are those that stand in it. -/
theorem mem_groups_scan {p : Text} {g : Group} : g ∈ groups (scan p) ↔ g.StandsIn p := by
  constructor
  · intro hg
    obtain ⟨rest, after, h, hd, hend⟩ := outside_of_mem p 0 p (outside_start p) g hg
    exact h.standsIn hd hend
  · intro hg
    exact mem_groups_of_standsIn p g hg 0 p (outside_start p) (Nat.zero_le _)

/-- Groups are found one after the other, from the place at which the scan begins. -/
theorem groups_ordered (start : Nat) (t : Text) :
    (∀ g ∈ groups (scanFrom start t), start ≤ g.start) ∧
      (groups (scanFrom start t)).Pairwise fun a b => a.stop < b.start := by
  induction start, t using scan_induction with
  | nil start => rw [scanFrom_nil]; exact ⟨by simp [groups], List.Pairwise.nil⟩
  | doubled start u t hu ih =>
    rw [scanFrom_doubled hu, groups_prependLiteral]
    exact ⟨fun g hg => by have := ih.1 g hg; omega, ih.2⟩
  | single start u t ho hd ih =>
    rw [scanFrom_single ho hd, groups_prependLiteral]
    exact ⟨fun g hg => by have := ih.1 g hg; omega, ih.2⟩
  | group start t source after hd hend ih =>
    rw [scanFrom_group hd hend, groups_group]
    refine ⟨List.forall_mem_cons.2 ⟨Nat.le_refl _, fun g hg => ?_⟩,
      List.pairwise_cons.2 ⟨fun g hg => ?_, ih.2⟩⟩
    · have := ih.1 g hg
      omega
    · have := ih.1 g hg
      simp only [Group.stop]
      omega
  | unclosed start t hd hend =>
    rw [scanFrom_unclosed hd hend]
    exact ⟨by simp [groups], List.Pairwise.nil⟩

end Piece

end NamePattern
