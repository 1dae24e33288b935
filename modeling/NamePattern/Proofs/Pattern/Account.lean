import NamePattern.Proofs.Pattern.Groups

/-!
Every unit of a pattern is accounted for by its segments. The fields are exactly the groups of known
names that stand in the pattern; between them, and before the first and after the last, the literal
text is the stretch of the pattern that no field covers, without the second unit of each doubled
bracket at depth zero. Whatever stands deeper is copied as written, and so is a bracket on its own.
-/

namespace NamePattern

/-- A stretch of a pattern that no field covers, up to but not including index `stop`, with the
literal text that the segments have for it. -/
structure Gap where
  start : Nat
  stop : Nat
  content : Text

/-- Puts literal text in front of the first gap. -/
def prependToGap (t : Text) : List Gap → List Gap
  | [] => []
  | gap :: rest => { gap with content := t ++ gap.content } :: rest

/-- The gaps before, between and after the fields of some segments, from index `start` to `stop`. -/
def gapsFrom (start stop : Nat) : List Segment → List Gap
  | [] => [⟨start, stop, []⟩]
  | .literal t :: rest => prependToGap t (gapsFrom start stop rest)
  | .field _ g :: rest => ⟨start, g.start, []⟩ :: gapsFrom (g.stop + 1) stop rest

/-- Whether a unit outside the fields is copied: all are but the second of a doubled bracket at depth
zero. -/
def Passed.isCopied (x : Passed) : Bool := !(x.second && x.depth == 0)

/-- The units that are copied. -/
def copiedUnits (passed : List Passed) : Text := (passed.filter Passed.isCopied).map Passed.unit

/-- The literal text of the stretch of a pattern from index `i` up to but not including `j`. -/
def copied (p : Text) (i j : Nat) : Text := copiedUnits ((passFrom 0 p).extract i j)

/-- The groups of the fields among some segments. -/
def Segment.groups (segments : List Segment) : List Group :=
  segments.filterMap fun
    | .literal _ => none
    | .field _ g => some g

/-- No literal is empty, and none follows another. -/
def Settled : List Segment → Prop
  | [] => True
  | .literal t :: rest => t ≠ [] ∧ (∀ s more, rest ≠ .literal s :: more) ∧ Settled rest
  | .field _ _ :: rest => Settled rest

/-! ### Fields -/

namespace Segment
variable (known : Text → Bool)

theorem groups_prependLiteral (t : Text) (segments : List Segment) :
    groups (prependLiteral t segments) = groups segments := by
  rcases segments with _ | ⟨_ | _, _⟩ <;> rfl

theorem field_mem_prependLiteral {t : Text} {segments : List Segment} {call : Call} {g : Group} :
    .field call g ∈ prependLiteral t segments ↔ .field call g ∈ segments := by
  rcases segments with _ | ⟨_ | _, _⟩ <;> simp [prependLiteral]

/-- The fields are the groups of known names, in the order of the scan. -/
theorem groups_foldr (pieces : List Piece) :
    groups (pieces.foldr (prependPiece known) [])
      = (Piece.groups pieces).filter fun g => known (Call.ofSource g.source).name := by
  induction pieces with
  | nil => rfl
  | cons piece rest ih =>
    rw [List.foldr_cons]
    cases piece with
    | literal t =>
      rw [prependPiece, groups_prependLiteral, ih]
      rfl
    | group g =>
      rw [Piece.groups_group]
      cases hk : known (Call.ofSource g.source).name with
      | true =>
        rw [prependPiece_known hk, List.filter_cons, if_pos hk, ← ih]
        rfl
      | false =>
        rw [prependPiece_unknown hk, groups_prependLiteral, List.filter_cons, if_neg (by simp [hk]), ih]

theorem field_mem_foldr {pieces : List Piece} {call : Call} {g : Group} :
    .field call g ∈ pieces.foldr (prependPiece known) [] ↔
      g ∈ Piece.groups pieces ∧ call = Call.ofSource g.source ∧ known call.name = true := by
  induction pieces with
  | nil => simp [Piece.groups]
  | cons piece rest ih =>
    rw [List.foldr_cons]
    cases piece with
    | literal t =>
      rw [prependPiece, field_mem_prependLiteral, ih]
      rfl
    | group other =>
      rw [Piece.groups_group, List.mem_cons]
      cases hk : known (Call.ofSource other.source).name with
      | true =>
        rw [prependPiece_known hk, List.mem_cons, ih]
        constructor
        · rintro (hfield | ⟨hmem, hcall⟩)
          · simp only [Segment.field.injEq] at hfield
            obtain ⟨rfl, rfl⟩ := hfield
            exact ⟨Or.inl rfl, rfl, hk⟩
          · exact ⟨Or.inr hmem, hcall⟩
        · rintro ⟨rfl | hmem, rfl, hcall⟩
          · exact Or.inl rfl
          · exact Or.inr ⟨hmem, rfl, hcall⟩
      | false =>
        rw [prependPiece_unknown hk, field_mem_prependLiteral, ih]
        constructor
        · rintro ⟨hmem, hcall⟩
          exact ⟨Or.inr hmem, hcall⟩
        · rintro ⟨rfl | hmem, rfl, hcall⟩
          · rw [hk] at hcall; cases hcall
          · exact ⟨hmem, rfl, hcall⟩

end Segment

/-! ### Literals -/

theorem settled_prependLiteral {t : Text} (ht : t ≠ []) {segments : List Segment}
    (h : Settled segments) : Settled (Segment.prependLiteral t segments) := by
  rcases segments with _ | ⟨s | ⟨call, g⟩, rest⟩
  · exact ⟨ht, by simp, trivial⟩
  · exact ⟨by simp [ht], h.2⟩
  · exact ⟨ht, by simp, h⟩

theorem settled_prependPiece (known : Text → Bool) (g : Group) {segments : List Segment}
    (h : Settled segments) : Settled (Segment.prependPiece known (.group g) segments) := by
  cases hk : known (Call.ofSource g.source).name with
  | true =>
    rw [Segment.prependPiece_known hk]
    exact h
  | false =>
    rw [Segment.prependPiece_unknown hk]
    exact settled_prependLiteral (by simp [Group.written, bracketed]) h

theorem settled_segmentsFrom (known : Text → Bool) (start : Nat) (t : Text) :
    Settled (segmentsFrom known start t) := by
  induction start, t using Piece.scan_induction with
  | nil start => rw [segmentsFrom_nil]; trivial
  | doubled start u t hu ih =>
    rw [segmentsFrom_doubled known start hu]
    exact settled_prependLiteral (by simp) ih
  | single start u t ho hd ih =>
    rw [segmentsFrom_single known start ho hd]
    exact settled_prependLiteral (by simp) ih
  | group start t source after hd hend ih =>
    rw [segmentsFrom_group known start hd hend]
    exact settled_prependPiece known _ ih
  | unclosed start t hd hend =>
    rw [segmentsFrom_unclosed known start hd hend]
    exact ⟨by simp, by simp, trivial⟩

theorem Settled.nonempty {segments : List Segment} (h : Settled segments) {t : Text}
    (ht : .literal t ∈ segments) : t ≠ [] := by
  induction segments with
  | nil => cases ht
  | cons segment rest ih =>
    cases segment with
    | literal s =>
      rcases List.mem_cons.1 ht with heq | hmem
      · cases heq
        exact h.1
      · exact ih h.2.2 hmem
    | field call g =>
      rcases List.mem_cons.1 ht with heq | hmem
      · cases heq
      · exact ih h hmem

theorem Settled.not_adjacent {segments : List Segment} (h : Settled segments)
    (before : List Segment) (s t : Text) (after : List Segment) :
    segments ≠ before ++ .literal s :: .literal t :: after := by
  rintro rfl
  induction before with
  | nil => exact h.2.1 t after rfl
  | cons segment rest ih =>
    cases segment with
    | literal _ => exact ih h.2.2
    | field _ _ => exact ih h

/-! ### Gaps -/

theorem gapsFrom_prependLiteral (start stop : Nat) (t : Text) (segments : List Segment) :
    gapsFrom start stop (Segment.prependLiteral t segments)
      = prependToGap t (gapsFrom start stop segments) := by
  rcases segments with _ | ⟨s | ⟨call, g⟩, rest⟩
  · rfl
  · rw [Segment.prependLiteral, gapsFrom, gapsFrom]
    cases gapsFrom start stop rest with
    | nil => rfl
    | cons gap more => simp only [prependToGap, List.append_assoc]
  · rfl

/-- Only the beginning of the first gap depends on where the segments begin. -/
theorem gapsFrom_eq_cons (stop : Nat) (segments : List Segment) : ∃ first content rest,
    ∀ start, gapsFrom start stop segments = ⟨start, first, content⟩ :: rest := by
  induction segments with
  | nil => exact ⟨stop, [], [], fun _ => rfl⟩
  | cons segment more ih =>
    cases segment with
    | literal t =>
      obtain ⟨first, content, rest, h⟩ := ih
      exact ⟨first, t ++ content, rest, fun start => by rw [gapsFrom, h start]; rfl⟩
    | field call g => exact ⟨g.start, [], gapsFrom (g.stop + 1) stop more, fun _ => rfl⟩

theorem copiedUnits_append (a b : List Passed) :
    copiedUnits (a ++ b) = copiedUnits a ++ copiedUnits b := by
  rw [copiedUnits, List.filter_append, List.map_append]
  rfl

theorem copied_self (p : Text) (i : Nat) : copied p i i = [] := by
  rw [copied, List.extract_eq_take_drop, Nat.sub_self, List.take_zero]
  rfl

theorem copied_append (p : Text) {i j k : Nat} (hij : i ≤ j) (hjk : j ≤ k) :
    copied p i k = copied p i j ++ copied p j k := by
  obtain ⟨m, rfl⟩ := Nat.exists_eq_add_of_le hij
  obtain ⟨n, rfl⟩ := Nat.exists_eq_add_of_le hjk
  rw [copied, copied, copied, ← copiedUnits_append]
  simp only [List.extract_eq_take_drop]
  have hwhole : i + m + n - i = m + n := by omega
  have hfirst : i + m - i = m := by omega
  have hsecond : i + m + n - (i + m) = n := by omega
  rw [hwhole, hfirst, hsecond, List.take_add, ← List.drop_drop]

/-- What is copied of the units passed from a place outside. -/
theorem Outside.copied_eq {p t : Text} {start : Nat} (h : Outside p start t)
    (front : List Passed) {back : List Passed} (hpass : passFrom 0 t = front ++ back) :
    copied p start (start + front.length) = copiedUnits front := by
  rw [copied, List.extract_eq_take_drop, h.drop, hpass, Nat.add_sub_cancel_left, List.take_left]

/-- All units that do not stand at depth zero are copied. -/
theorem copiedUnits_of_inside {passed : List Passed} (h : ∀ x ∈ passed, x.Inside) :
    copiedUnits passed = passed.map Passed.unit := by
  have hall : ∀ x ∈ passed, x.isCopied = true := by
    intro x hx
    have hdepth := (h x hx).1
    have hzero : (x.depth == 0) = false := beq_false_of_ne (by omega)
    rw [Passed.isCopied, hzero, Bool.and_false]
    rfl
  rw [copiedUnits, List.filter_eq_self.2 hall]

/-- Every gap of some segments has the literal text of its stretch. -/
def Copies (p : Text) (start : Nat) (segments : List Segment) : Prop :=
  ∀ gap ∈ gapsFrom start p.length segments,
    start ≤ gap.start ∧ gap.start ≤ gap.stop ∧ gap.content = copied p gap.start gap.stop

/-- A stretch of literal text before the segments. -/
theorem copies_prependLiteral {p t : Text} {start next : Nat} {segments : List Segment}
    (hle : start ≤ next) (ht : copied p start next = t) (h : Copies p next segments) :
    Copies p start (Segment.prependLiteral t segments) := by
  obtain ⟨first, content, rest, hgaps⟩ := gapsFrom_eq_cons p.length segments
  intro gap hgap
  rw [gapsFrom_prependLiteral, hgaps start, prependToGap] at hgap
  rw [Copies, hgaps next] at h
  rcases List.mem_cons.1 hgap with rfl | hmem
  · obtain ⟨-, hstop, hcontent⟩ := h _ (List.mem_cons_self ..)
    simp only at hstop hcontent ⊢
    exact ⟨Nat.le_refl _, by omega, by rw [copied_append p hle hstop, ht, hcontent]⟩
  · obtain ⟨hstart, hrest⟩ := h gap (List.mem_cons_of_mem _ hmem)
    exact ⟨by omega, hrest⟩

/-- A field before the segments that begins where they begin. -/
theorem copies_field {p : Text} {call : Call} {g : Group} {segments : List Segment}
    (h : Copies p (g.stop + 1) segments) : Copies p g.start (.field call g :: segments) := by
  have hlt := g.start_lt_stop
  intro gap hgap
  rcases List.mem_cons.1 hgap with rfl | hmem
  · exact ⟨Nat.le_refl _, Nat.le_refl _, (copied_self p g.start).symm⟩
  · obtain ⟨hstart, hrest⟩ := h gap hmem
    exact ⟨by omega, hrest⟩

theorem copiedUnits_group {source : Text} (h : ∀ x ∈ passFrom 1 source, x.Inside) :
    copiedUnits (Outside.groupUnits source) = bracketed source := by
  have hsource : copiedUnits (passFrom 1 source) = source := by
    rw [copiedUnits_of_inside h, map_unit_passFrom]
  rw [Outside.groupUnits, ← List.singleton_append, copiedUnits_append, copiedUnits_append, hsource]
  rfl

theorem copies_segmentsFrom (known : Text → Bool) (p : Text) (start : Nat) (t : Text) :
    Outside p start t → Copies p start (segmentsFrom known start t) := by
  induction start, t using Piece.scan_induction with
  | nil start =>
    intro h gap hgap
    have hlen := h.length_eq
    rw [List.length_nil, Nat.add_zero] at hlen
    rw [segmentsFrom_nil, gapsFrom, List.mem_singleton] at hgap
    subst hgap
    exact ⟨Nat.le_refl _, Nat.le_of_eq hlen.symm, by rw [hlen, copied_self]⟩
  | doubled start u t hu ih =>
    intro h
    rw [segmentsFrom_doubled known start hu]
    have hcopied := h.copied_eq [⟨u, 0, false⟩, ⟨u, 0, true⟩] (passFrom_doubled hu (by decide) t)
    exact copies_prependLiteral (by omega) hcopied (ih (h.doubled hu))
  | single start u t ho hd ih =>
    intro h
    rw [segmentsFrom_single known start ho hd]
    have hcopied := h.copied_eq [⟨u, 0, false⟩] (Outside.passFrom_zero_single ho hd)
    exact copies_prependLiteral (by omega) hcopied (ih (h.single ho hd))
  | group start t source after hd hend ih =>
    intro h
    have hrest := ih (h.group hd hend)
    rw [segmentsFrom_group known start hd hend]
    cases hk : known (Call.ofSource source).name with
    | true =>
      rw [Segment.prependPiece_known hk]
      exact copies_field (g := ⟨source, start⟩) hrest
    | false =>
      rw [Segment.prependPiece_unknown hk]
      refine copies_prependLiteral (by omega) ?_ hrest
      have hcopied := h.copied_eq _ (Outside.passFrom_group hd hend)
      have hin := inside_of_enclosed (enclosed_of_groupEnd 0 t source after hend)
      rwa [Outside.length_groupUnits, ← Nat.add_assoc, copiedUnits_group hin] at hcopied
  | unclosed start t hd hend =>
    intro h gap hgap
    rw [segmentsFrom_unclosed known start hd hend, gapsFrom, gapsFrom, prependToGap,
      List.mem_singleton] at hgap
    subst hgap
    have hpass : passFrom 0 (openBracket :: t) = (⟨openBracket, 0, false⟩ :: passFrom 1 t) ++ [] := by
      rw [List.append_nil, Outside.passFrom_open hd]
    have hunits : copiedUnits (⟨openBracket, 0, false⟩ :: passFrom 1 t) = openBracket :: t := by
      rw [← List.singleton_append, copiedUnits_append,
        copiedUnits_of_inside (inside_of_groupEnd_none 0 t hend), map_unit_passFrom]
      rfl
    have hcopied := h.copied_eq _ hpass
    rw [List.length_cons, length_passFrom, ← List.length_cons, ← h.length_eq, hunits] at hcopied
    exact ⟨Nat.le_refl _, h.le, by rw [hcopied, List.append_nil]⟩

/-! ### The account -/

/-- A pattern's fields are the groups of known names that stand in it, one after the other. No literal
is empty or follows another, and each gap between the fields has the literal text of its stretch. -/
theorem segments_account_for_text (known : Text → Bool) (p : Text) :
    let segments := (Pattern.ofText known p).segments
    (∀ call g, .field call g ∈ segments ↔
        g.StandsIn p ∧ call = Call.ofSource g.source ∧ known call.name = true) ∧
      (Segment.groups segments).Pairwise (fun a b => a.stop < b.start) ∧
      (∀ t, .literal t ∈ segments → t ≠ []) ∧
      (∀ before s t after, segments ≠ before ++ .literal s :: .literal t :: after) ∧
      ∀ gap ∈ gapsFrom 0 p.length segments,
        gap.start ≤ gap.stop ∧ gap.content = copied p gap.start gap.stop := by
  intro segments
  have hsettled : Settled segments := settled_segmentsFrom known 0 p
  refine ⟨?_, ?_, fun t ht => hsettled.nonempty ht, hsettled.not_adjacent, ?_⟩
  · intro call g
    rw [← Piece.mem_groups_scan]
    exact Segment.field_mem_foldr known
  · have hordered := (Piece.groups_ordered 0 p).2
    have hgroups : Segment.groups segments = _ := Segment.groups_foldr known (Piece.scan p)
    rw [hgroups]
    exact hordered.filter _
  · intro gap hgap
    exact (copies_segmentsFrom known p 0 p (outside_start p) gap hgap).2

end NamePattern
