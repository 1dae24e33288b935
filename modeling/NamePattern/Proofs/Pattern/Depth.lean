import NamePattern.Proofs.Pattern.Scan

/-!
The depth at which a scan passes each unit of a pattern, counted in one pass from the left: every unit
is passed once, a doubled bracket as one except at depth one. A group stands in a pattern where the
depth leaves zero and comes back to it, and `mem_groups_scan` says that the scan finds exactly the
groups that stand in the pattern.

    depth       0        1            2 and more
    `[[`        one      two deeper   one
    `[`         deeper   deeper       deeper
    `]]`        one      closes       one
    `]`         stays    closes       back by one
-/

namespace NamePattern

/-- A unit as the scan passes it: the depth at which it stands, and whether it is the second of a
doubled bracket. -/
structure Passed where
  unit : CodeUnit
  depth : Nat
  second : Bool
  deriving DecidableEq

/-- The depth after a unit that is passed on its own. -/
def depthAfter (u : CodeUnit) (depth : Nat) : Nat :=
  if u = openBracket then depth + 1 else if u = closeBracket then depth - 1 else depth

/-- The units of a text as they are passed from a depth on. -/
def passFrom (depth : Nat) : Text → List Passed
  | [] => []
  | [u] => [⟨u, depth, false⟩]
  | u :: v :: rest =>
    if isBracket u && v = u && depth ≠ 1 then
      ⟨u, depth, false⟩ :: ⟨u, depth, true⟩ :: passFrom depth rest
    else ⟨u, depth, false⟩ :: passFrom (depthAfter u depth) (v :: rest)

/-- The depth at which a pattern's unit stands. -/
def depthAt (p : Text) (i : Nat) : Option Nat := ((passFrom 0 p)[i]?).map Passed.depth

/-- A closed group in a pattern: its opening bracket stands outside every group, its closing bracket
is the one at which the depth goes back from one, and everything between is inside. -/
structure Group.StandsIn (g : Group) (p : Text) : Prop where
  opening : p[g.start]? = some openBracket
  closing : p[g.stop]? = some closeBracket
  source : p.extract (g.start + 1) g.stop = g.source
  outside : depthAt p g.start = some 0
  inside : ∀ i, g.start < i → i ≤ g.stop → depthAt p i ≠ some 0
  matching : depthAt p g.stop = some 1

/-- The units of a group's source, as the scan of the whole pattern passes them. -/
def Group.unitsIn (g : Group) (p : Text) : List Passed :=
  (passFrom 0 p).extract (g.start + 1) g.stop

theorem depthAfter_openBracket (d : Nat) : depthAfter openBracket d = d + 1 := rfl

theorem depthAfter_closeBracket (d : Nat) : depthAfter closeBracket d = d - 1 := rfl

theorem depthAfter_other {u : CodeUnit} (hu : isBracket u = false) (d : Nat) :
    depthAfter u d = d := by
  obtain ⟨ho, hc⟩ := isBracket_eq_false.1 hu
  rw [depthAfter, if_neg ho, if_neg hc]

theorem passFrom_doubled {u : CodeUnit} (hu : isBracket u = true) {d : Nat} (hd : d ≠ 1) (t : Text) :
    passFrom d (u :: u :: t) = ⟨u, d, false⟩ :: ⟨u, d, true⟩ :: passFrom d t := by
  rw [passFrom]
  simp [hu, hd]

/-- A unit that is no doubled bracket, or stands at depth one. -/
theorem passFrom_single {u : CodeUnit} {d : Nat} {t : Text}
    (h : isBracket u = true → t.head? = some u → d = 1) :
    passFrom d (u :: t) = ⟨u, d, false⟩ :: passFrom (depthAfter u d) t := by
  cases t with
  | nil => rfl
  | cons v rest =>
    have hv : ¬ (isBracket u && decide (v = u) && decide (d ≠ 1)) = true := by
      intro hall
      simp only [Bool.and_eq_true, decide_eq_true_eq] at hall
      exact hall.2 (h hall.1.1 (by rw [hall.1.2]; rfl))
    rw [passFrom, if_neg hv]

theorem passFrom_other {u : CodeUnit} (hu : isBracket u = false) (d : Nat) (t : Text) :
    passFrom d (u :: t) = ⟨u, d, false⟩ :: passFrom d t := by
  rw [passFrom_single (by simp [hu]), depthAfter_other hu]

/-- The first unit stands at the depth at which the pass begins. -/
theorem exists_passFrom_cons (d : Nat) (u : CodeUnit) (t : Text) :
    ∃ more, passFrom d (u :: t) = ⟨u, d, false⟩ :: more := by
  cases t with
  | nil => exact ⟨[], rfl⟩
  | cons v rest => rw [passFrom]; split <;> exact ⟨_, rfl⟩

/-- The pass goes over every unit once and in order. -/
theorem map_unit_passFrom (d : Nat) (t : Text) : (passFrom d t).map Passed.unit = t := by
  fun_induction passFrom d t with
  | case1 => rfl
  | case2 => rfl
  | case3 d u v rest h ih =>
    simp only [Bool.and_eq_true, decide_eq_true_eq] at h
    rw [List.map_cons, List.map_cons, ih, h.1.2]
  | case4 d u v rest h ih => rw [List.map_cons, ih]

theorem length_passFrom (d : Nat) (t : Text) : (passFrom d t).length = t.length := by
  rw [← congrArg List.length (map_unit_passFrom d t), List.length_map]

theorem getElem?_eq_map_unit (p : Text) (i : Nat) :
    p[i]? = ((passFrom 0 p)[i]?).map Passed.unit := by
  rw [← List.getElem?_map, map_unit_passFrom]

/-- A unit inside a group that does not close it. -/
def Passed.Inside (x : Passed) : Prop := 1 ≤ x.depth ∧ (x.unit = closeBracket → x.depth ≠ 1)

theorem passFrom_enclosed {n : Nat} {source : Text} (h : Enclosed n source) (after : Text) :
    passFrom (n + 1) (source ++ closeBracket :: after)
      = passFrom (n + 1) source ++ ⟨closeBracket, 1, false⟩ :: passFrom 0 after := by
  induction h with
  | done => exact passFrom_single fun _ _ => rfl
  | other hu _ ih => rw [List.cons_append, passFrom_other hu, passFrom_other hu, ih]; rfl
  | openFirst _ ih =>
    rw [List.cons_append, passFrom_single fun _ _ => rfl, passFrom_single fun _ _ => rfl,
      depthAfter_openBracket, ih]
    rfl
  | openPair _ ih =>
    rw [List.cons_append, List.cons_append, passFrom_doubled isBracket_openBracket (by omega),
      passFrom_doubled isBracket_openBracket (by omega), ih]
    rfl
  | openSingle hd _ ih =>
    rw [List.cons_append, passFrom_single fun _ h => absurd h (head_append_close hd after),
      passFrom_single fun _ h => absurd h hd, depthAfter_openBracket, ih]
    rfl
  | closePair _ ih =>
    rw [List.cons_append, List.cons_append, passFrom_doubled isBracket_closeBracket (by omega),
      passFrom_doubled isBracket_closeBracket (by omega), ih]
    rfl
  | closeSingle hd hne _ ih =>
    rw [List.cons_append, passFrom_single fun _ h => absurd h (head_append_ne hne hd _),
      passFrom_single fun _ h => absurd h hd, depthAfter_closeBracket, Nat.add_sub_cancel, ih]
    rfl

/-- Where no end of a group is found, no unit closes it. -/
theorem inside_of_groupEnd_none (n : Nat) (t : Text) : groupEnd n t = none →
    ∀ x ∈ passFrom (n + 1) t, x.Inside := by
  induction n, t using groupEnd_induction with
  | nil n => intro _ x hx; simp [passFrom] at hx
  | other n u t hu ih =>
    intro h
    rw [groupEnd_other hu, prependToSplit_eq_none] at h
    rw [passFrom_other hu]
    have hfirst : Passed.Inside ⟨u, n + 1, false⟩ :=
      ⟨by simp, fun hc => absurd hc (isBracket_eq_false.1 hu).2⟩
    exact List.forall_mem_cons.2 ⟨hfirst, ih h⟩
  | openFirst t ih =>
    intro h
    rw [groupEnd_open_first, prependToSplit_eq_none] at h
    rw [passFrom_single fun _ _ => rfl, depthAfter_openBracket]
    exact List.forall_mem_cons.2 ⟨⟨by simp, fun hc => absurd hc openBracket_ne_closeBracket⟩, ih h⟩
  | openPair n t ih =>
    intro h
    rw [groupEnd_open_pair, prependToSplit_eq_none] at h
    rw [passFrom_doubled isBracket_openBracket (by omega)]
    exact List.forall_mem_cons.2 ⟨⟨by simp, by simp⟩,
      List.forall_mem_cons.2 ⟨⟨by simp, by simp⟩, ih h⟩⟩
  | openSingle n t hd ih =>
    intro h
    rw [groupEnd_open_single hd, prependToSplit_eq_none] at h
    rw [passFrom_single fun _ h => absurd h hd, depthAfter_openBracket]
    exact List.forall_mem_cons.2 ⟨⟨by simp, by simp⟩, ih h⟩
  | closeLast t => intro h; rw [groupEnd_close_last] at h; cases h
  | closePair n t ih =>
    intro h
    rw [groupEnd_close_pair, prependToSplit_eq_none] at h
    rw [passFrom_doubled isBracket_closeBracket (by omega)]
    exact List.forall_mem_cons.2 ⟨⟨by simp, by simp⟩,
      List.forall_mem_cons.2 ⟨⟨by simp, by simp⟩, ih h⟩⟩
  | closeSingle n t hd ih =>
    intro h
    rw [groupEnd_close_single hd, prependToSplit_eq_none] at h
    rw [passFrom_single fun _ h => absurd h hd, depthAfter_closeBracket, Nat.add_sub_cancel]
    exact List.forall_mem_cons.2 ⟨⟨by simp, by simp⟩, ih h⟩

/-- Within a group's source no unit closes the group. -/
theorem inside_of_enclosed {source : Text} (h : Enclosed 0 source) :
    ∀ x ∈ passFrom 1 source, x.Inside :=
  inside_of_groupEnd_none 0 source (groupEnd_source_of_enclosed h)

/-! ### Places outside every group -/

/-- The scan stands outside every group at index `start`, with `t` still to be passed. -/
structure Outside (p : Text) (start : Nat) (t : Text) : Prop where
  le : start ≤ p.length
  drop : (passFrom 0 p).drop start = passFrom 0 t

theorem outside_start (p : Text) : Outside p 0 p := ⟨Nat.zero_le _, rfl⟩

namespace Outside
variable {p t : Text} {start : Nat}

theorem length_eq (h : Outside p start t) : p.length = start + t.length := by
  have hlen := congrArg List.length h.drop
  have hle := h.le
  rw [List.length_drop, length_passFrom, length_passFrom] at hlen
  omega

theorem getElem? (h : Outside p start t) (k : Nat) :
    (passFrom 0 p)[start + k]? = (passFrom 0 t)[k]? := by
  rw [← h.drop, List.getElem?_drop]

/-- Passing the units `front` leads from one place outside to the next. -/
theorem next {after : Text} (h : Outside p start t) (front : List Passed)
    (hpass : passFrom 0 t = front ++ passFrom 0 after) :
    Outside p (start + front.length) after := by
  have hlen := congrArg List.length hpass
  have hp := h.length_eq
  rw [List.length_append, length_passFrom, length_passFrom] at hlen
  refine ⟨by omega, ?_⟩
  rw [← List.drop_drop, h.drop, hpass, List.drop_left]

theorem doubled {u : CodeUnit} (hu : isBracket u = true) (h : Outside p start (u :: u :: t)) :
    Outside p (start + 2) t :=
  h.next [⟨u, 0, false⟩, ⟨u, 0, true⟩] (passFrom_doubled hu (by decide) t)

theorem passFrom_zero_single {u : CodeUnit} (ho : u ≠ openBracket)
    (hd : isBracket u = true → t.head? ≠ some u) :
    passFrom 0 (u :: t) = ⟨u, 0, false⟩ :: passFrom 0 t := by
  have hdepth : depthAfter u 0 = 0 := by rw [depthAfter, if_neg ho]; split <;> rfl
  rw [passFrom_single fun hu hr => absurd hr (hd hu), hdepth]

theorem single {u : CodeUnit} (ho : u ≠ openBracket) (hd : isBracket u = true → t.head? ≠ some u)
    (h : Outside p start (u :: t)) : Outside p (start + 1) t :=
  h.next [⟨u, 0, false⟩] (passFrom_zero_single ho hd)

/-- The units of a group from its opening bracket through its closing one. -/
def groupUnits (source : Text) : List Passed :=
  ⟨openBracket, 0, false⟩ :: (passFrom 1 source ++ [⟨closeBracket, 1, false⟩])

theorem passFrom_open (hd : t.head? ≠ some openBracket) :
    passFrom 0 (openBracket :: t) = ⟨openBracket, 0, false⟩ :: passFrom 1 t := by
  rw [passFrom_single fun _ hr => absurd hr hd, depthAfter_openBracket]

theorem passFrom_group {source after : Text} (hd : t.head? ≠ some openBracket)
    (hend : groupEnd 0 t = some (source, after)) :
    passFrom 0 (openBracket :: t) = groupUnits source ++ passFrom 0 after := by
  obtain ⟨rfl, henc⟩ := groupEnd_eq_some_iff.1 hend
  rw [passFrom_open hd, passFrom_enclosed henc, groupUnits, List.cons_append, List.append_assoc]
  rfl

theorem length_groupUnits (source : Text) : (groupUnits source).length = source.length + 2 := by
  rw [groupUnits, List.length_cons, List.length_append, length_passFrom]
  rfl

theorem group {source after : Text} (hd : t.head? ≠ some openBracket)
    (hend : groupEnd 0 t = some (source, after)) (h : Outside p start (openBracket :: t)) :
    Outside p (start + source.length + 2) after := by
  have hnext := h.next (groupUnits source) (passFrom_group hd hend)
  rwa [length_groupUnits, ← Nat.add_assoc] at hnext

end Outside

end NamePattern
