import NamePattern.Proofs.Pattern.Depth

/-!
Patterns written one after the other. Where the first one leaves no group open, the scan comes to the
second one as it would come to a pattern of its own, and the segments are those of both; two literals
that meet are one. The scan looks a unit ahead, so a closing bracket at the start of the second pattern
could double one at the end of the first. An opening bracket needs no such care: a pattern that ends
in one leaves its group open.
-/

namespace NamePattern

/-- The depth behind a unit, at which the next one is passed. -/
def Passed.depthBehind (x : Passed) : Nat := if x.second then x.depth else depthAfter x.unit x.depth

/-- The depth at which the scan of a pattern ends. -/
def finalDepth (p : Text) : Nat := ((passFrom 0 p).getLast?.map Passed.depthBehind).getD 0

/-- A group that begins `offset` units later. -/
def Group.shift (offset : Nat) (g : Group) : Group := { g with start := g.start + offset }

/-- A segment whose group, if it is a field, begins `offset` units later. -/
def Segment.shift (offset : Nat) : Segment → Segment
  | .literal t => .literal t
  | .field call g => .field call (g.shift offset)

/-- Segments followed by others, where two literals that meet are one. -/
def Segment.append : List Segment → List Segment → List Segment
  | [], more => more
  | [.literal s], .literal t :: more => .literal (s ++ t) :: more
  | segment :: rest, more => segment :: append rest more

/-- A shifted group ends later by as much as it begins later. -/
theorem Group.stop_shift (offset : Nat) (g : Group) : (g.shift offset).stop = g.stop + offset := by
  simp only [Group.stop, Group.shift]
  omega

theorem Passed.Inside.depthBehind_ne_zero {x : Passed} (h : x.Inside) : x.depthBehind ≠ 0 := by
  have hdepth := h.1
  rw [Passed.depthBehind]
  split
  · omega
  rcases bracket_cases x.unit with ho | hc | hu
  · rw [ho, depthAfter_openBracket]
    omega
  · have hne := h.2 hc
    rw [hc, depthAfter_closeBracket]
    omega
  · rw [depthAfter_other hu]
    omega

/-! ### Segments in front of others -/

namespace Segment

theorem append_field (call : Call) (g : Group) (segments more : List Segment) :
    append (.field call g :: segments) more = .field call g :: append segments more := by
  cases more <;> rfl

theorem append_prependLiteral (t : Text) (segments more : List Segment) :
    append (prependLiteral t segments) more = prependLiteral t (append segments more) := by
  rcases segments with _ | ⟨s | ⟨call, g⟩, rest⟩
  · rcases more with _ | ⟨_ | _, _⟩ <;> rfl
  · rcases rest with _ | ⟨next, rest⟩
    · rcases more with _ | ⟨_ | _, _⟩ <;> simp [prependLiteral, append]
    · rfl
  · rw [append_field]
    rfl

theorem append_prependPiece (known : Text → Bool) (g : Group) (segments more : List Segment) :
    append (prependPiece known (.group g) segments) more
      = prependPiece known (.group g) (append segments more) := by
  cases hk : known (Call.ofSource g.source).name with
  | true => rw [prependPiece_known hk, prependPiece_known hk, append_field]
  | false => rw [prependPiece_unknown hk, prependPiece_unknown hk, append_prependLiteral]

theorem map_shift_prependLiteral (offset : Nat) (t : Text) (segments : List Segment) :
    (prependLiteral t segments).map (shift offset)
      = prependLiteral t (segments.map (shift offset)) := by
  rcases segments with _ | ⟨_ | _, _⟩ <;> rfl

theorem map_shift_prependPiece (known : Text → Bool) (offset : Nat) (g : Group)
    (segments : List Segment) :
    (prependPiece known (.group g) segments).map (shift offset)
      = prependPiece known (.group (g.shift offset)) (segments.map (shift offset)) := by
  have hsource : (g.shift offset).source = g.source := rfl
  cases hk : known (Call.ofSource g.source).name with
  | true => rw [prependPiece_known hk, prependPiece_known (hsource ▸ hk), hsource]; rfl
  | false =>
    rw [prependPiece_unknown hk, prependPiece_unknown (hsource ▸ hk), map_shift_prependLiteral]
    rfl

end Segment

/-! ### Where a pattern stands -/

/-- The segments of a text that begins later are the same ones, begun later. -/
theorem segmentsFrom_add (known : Text → Bool) (start : Nat) (t : Text) (offset : Nat) :
    segmentsFrom known (start + offset) t
      = (segmentsFrom known start t).map (Segment.shift offset) := by
  induction start, t using Piece.scan_induction with
  | nil start => rw [segmentsFrom_nil, segmentsFrom_nil]; rfl
  | doubled start u t hu ih =>
    rw [segmentsFrom_doubled known _ hu, segmentsFrom_doubled known _ hu,
      Segment.map_shift_prependLiteral, ← ih, Nat.add_right_comm]
  | single start u t ho hd ih =>
    rw [segmentsFrom_single known _ ho hd, segmentsFrom_single known _ ho hd,
      Segment.map_shift_prependLiteral, ← ih, Nat.add_right_comm]
  | group start t source after hd hend ih =>
    have hstart : start + offset + source.length + 2 = start + source.length + 2 + offset := by omega
    rw [segmentsFrom_group known _ hd hend, segmentsFrom_group known _ hd hend,
      Segment.map_shift_prependPiece, ← ih, hstart]
    rfl
  | unclosed start t hd hend =>
    rw [segmentsFrom_unclosed known _ hd hend, segmentsFrom_unclosed known _ hd hend]
    rfl

/-! ### Where a pattern ends -/

/-- Units that lead back to depth zero have no part in the depth at which the scan ends. -/
theorem finalDepth_of_passFrom {t after : Text} (front : List Passed)
    (hpass : passFrom 0 t = front ++ passFrom 0 after)
    (hfront : front.getLast?.map Passed.depthBehind = some 0) : finalDepth t = finalDepth after := by
  rw [finalDepth, hpass, List.getLast?_append, finalDepth]
  cases (passFrom 0 after).getLast? with
  | none => rw [Option.none_or, hfront]; rfl
  | some x => rfl

theorem finalDepth_doubled {u : CodeUnit} (hu : isBracket u = true) (t : Text) :
    finalDepth (u :: u :: t) = finalDepth t :=
  finalDepth_of_passFrom [⟨u, 0, false⟩, ⟨u, 0, true⟩] (passFrom_doubled hu (by decide) t) rfl

theorem finalDepth_single {u : CodeUnit} {t : Text} (ho : u ≠ openBracket)
    (hd : isBracket u = true → t.head? ≠ some u) : finalDepth (u :: t) = finalDepth t := by
  refine finalDepth_of_passFrom [⟨u, 0, false⟩] (Outside.passFrom_zero_single ho hd) ?_
  have hbehind : depthAfter u 0 = 0 := by
    rw [depthAfter, if_neg ho]
    split <;> rfl
  exact congrArg some hbehind

theorem finalDepth_group {t source after : Text} (hd : t.head? ≠ some openBracket)
    (hend : groupEnd 0 t = some (source, after)) :
    finalDepth (openBracket :: t) = finalDepth after := by
  refine finalDepth_of_passFrom (Outside.groupUnits source) (Outside.passFrom_group hd hend) ?_
  rw [Outside.groupUnits, ← List.cons_append, List.getLast?_concat]
  rfl

/-- The scan never ends at depth zero within a group. -/
theorem finalDepth_unclosed {t : Text} (hd : t.head? ≠ some openBracket)
    (hend : groupEnd 0 t = none) : finalDepth (openBracket :: t) ≠ 0 := by
  rw [finalDepth, Outside.passFrom_open hd]
  rcases List.eq_nil_or_concat (passFrom 1 t) with hnil | ⟨front, x, hlast⟩
  · rw [hnil]
    decide
  · have hinside := inside_of_groupEnd_none 0 t hend x (by rw [hlast]; simp)
    rw [hlast, List.concat_eq_append, ← List.cons_append, List.getLast?_concat]
    exact hinside.depthBehind_ne_zero

/-! ### Two patterns -/

theorem segmentsFrom_append (known : Text → Bool) {q : Text} (hq : q.head? ≠ some closeBracket)
    (start : Nat) (p : Text) : finalDepth p = 0 →
    segmentsFrom known start (p ++ q)
      = Segment.append (segmentsFrom known start p) (segmentsFrom known (start + p.length) q) := by
  induction start, p using Piece.scan_induction with
  | nil start => intro _; rw [segmentsFrom_nil]; rfl
  | doubled start u t hu ih =>
    intro h
    rw [finalDepth_doubled hu] at h
    have hlen : start + 2 + t.length = start + (u :: u :: t).length := by
      simp only [List.length_cons]
      omega
    rw [List.cons_append, List.cons_append, segmentsFrom_doubled known start hu,
      segmentsFrom_doubled known start hu, ih h, Segment.append_prependLiteral, hlen]
  | single start u t ho hd ih =>
    intro h
    rw [finalDepth_single ho hd] at h
    have hlen : start + 1 + t.length = start + (u :: t).length := by
      simp only [List.length_cons]
      omega
    -- only at the border does the unit ahead change, and there it is no closing bracket
    have hborder : isBracket u = true → (t ++ q).head? ≠ some u := by
      intro hu
      obtain rfl := (isBracket_eq_true.1 hu).resolve_left ho
      cases t with
      | nil => exact hq
      | cons v rest => exact head_append_ne (List.cons_ne_nil v rest) (hd hu) q
    rw [List.cons_append, segmentsFrom_single known start ho hborder,
      segmentsFrom_single known start ho hd, ih h, Segment.append_prependLiteral, hlen]
  | group start t source after hd hend ih =>
    intro h
    rw [finalDepth_group hd hend] at h
    obtain ⟨ht, henclosed⟩ := groupEnd_eq_some_iff.1 hend
    have hend' : groupEnd 0 (t ++ q) = some (source, after ++ q) := by
      rw [ht, List.append_assoc]
      exact groupEnd_of_enclosed henclosed (after ++ q)
    have hne : t ≠ [] := by
      rw [ht]
      simp
    have hlen : start + source.length + 2 + after.length = start + (openBracket :: t).length := by
      rw [ht]
      simp only [List.length_cons, List.length_append]
      omega
    rw [List.cons_append, segmentsFrom_group known start (head_append_ne hne hd q) hend',
      segmentsFrom_group known start hd hend, ih h, Segment.append_prependPiece, hlen]
  | unclosed start t hd hend =>
    intro h
    exact absurd h (finalDepth_unclosed hd hend)

/-- The segments of a pattern that leaves no group open, followed by another one that does not begin
with a closing bracket, are the segments of the first and then those of the second, whose groups begin
and end as much later as the first is long. A literal at the end of the first and one at the start of
the second are one. -/
theorem segments_append_of_closed (known : Text → Bool) (p q : Text) (hp : finalDepth p = 0)
    (hq : q.head? ≠ some closeBracket) :
    (Pattern.ofText known (p ++ q)).segments
        = Segment.append (Pattern.ofText known p).segments
            ((Pattern.ofText known q).segments.map (Segment.shift p.length)) ∧
      ∀ g : Group, (g.shift p.length).start = g.start + p.length ∧
        (g.shift p.length).stop = g.stop + p.length := by
  have happend := segmentsFrom_append known hq 0 p hp
  rw [segmentsFrom_add] at happend
  exact ⟨happend, fun g => ⟨rfl, g.stop_shift p.length⟩⟩

/-- A group of an unknown name after a doubled bracket: the three opening brackets are read as they are
apart, and the literals on both sides of the border are one. -/
theorem doubled_bracket_before_unknown_group :
    let known : Text → Bool := fun name => name = text "a" || name = text "c"
    let p := text "[a, [[[] ]x[["
    let q := text "[u]y[c]"
    finalDepth p = 0 ∧ q.head? ≠ some closeBracket ∧
      (Pattern.ofText known (p ++ q)).segments
        = [.field ⟨text "a", [text " [[[] "]⟩ ⟨text "a, [[[] ", 0⟩, .literal (text "x[[u]y"),
            .field ⟨text "c", []⟩ ⟨text "c", 17⟩] := by
  intro known p q
  have hp : finalDepth p = 0 := by decide
  have hq : q.head? ≠ some closeBracket := by decide
  exact ⟨hp, hq, (segments_append_of_closed known p q hp hq).1.trans (by decide +kernel)⟩

end NamePattern
