import NamePattern.Pattern.Bracket
import NamePattern.Text.Blank
import NamePattern.Text.Case

/-!
Units that lower casing leaves as they are. Blanks, brackets and commas lie in stretches of the code
points that hold no capital letter, so a text that has one of them still has it in lower case. What stands
below the capital letters, such as a period, is the lower case of nothing else either, so lower casing
keeps the count of it.
-/

namespace NamePattern

theorem inRanges_iff {ranges : List (Nat × Nat)} {n : Nat} :
    inRanges ranges n = true ↔ ∃ r ∈ ranges, r.1 ≤ n ∧ n ≤ r.2 := by
  simp [inRanges]

/-- Stretches of the basic plane that hold no capital letter and no half of a pair. -/
def caselessRanges : List (Nat × Nat) :=
  [(0x0, 0x40), (0x5B, 0xBF), (0x13F6, 0x1C88), (0x1FFD, 0x2125), (0x2CF3, 0xA63F), (0xFB00, 0xFF20)]

/-- Whether a unit lies in one of these stretches. -/
def isCaseless (u : CodeUnit) : Bool := inRanges caselessRanges u.toNat

theorem caselessRanges_apart :
    ∀ r ∈ caselessRanges, ∀ run ∈ lowerRuns, run.last < r.1 ∨ r.2 < run.first := by
  decide +kernel

theorem apply_lowerRuns_of_caseless {p : Nat} (h : inRanges caselessRanges p = true) :
    CaseRun.apply lowerRuns p = p := by
  obtain ⟨r, hr, hfirst, hlast⟩ := inRanges_iff.1 h
  have hnone : lowerRuns.find? (fun run => run.covers p) = none := by
    refine List.find?_eq_none.2 fun run hrun hcovers => ?_
    have hapart := caselessRanges_apart r hr run hrun
    simp only [CaseRun.covers, Bool.and_eq_true, decide_eq_true_eq] at hcovers
    omega
  rw [CaseRun.apply, hnone]

theorem isCaseless_bounds {p : Nat} (h : inRanges caselessRanges p = true) :
    p < 0xD800 ∧ p ≠ 0x130 ∧ p ≠ 0x3A3 ∨ 0xDFFF < p ∧ p < 0x10000 := by
  have hbounds : ∀ r ∈ caselessRanges,
      r.2 < 0x130 ∨ 0x3A3 < r.1 ∧ r.2 < 0xD800 ∨ 0xDFFF < r.1 ∧ r.2 < 0x10000 := by decide
  obtain ⟨r, hr, hfirst, hlast⟩ := inRanges_iff.1 h
  have := hbounds r hr
  omega

namespace Text

theorem mem_points {u : CodeUnit} (hu : isCaseless u = true) {t : Text} (h : u ∈ t) :
    u.toNat ∈ t.points := by
  -- no half of a pair, so it is a point of its own
  have hhalf : isLead u = false ∧ isTrail u = false := by
    have := isCaseless_bounds hu
    simp only [isLead, isTrail, Bool.and_eq_false_iff, decide_eq_false_iff_not,
      UInt16.le_iff_toNat_le]
    have h1 : (0xD800 : CodeUnit).toNat = 0xD800 := rfl
    have h2 : (0xDBFF : CodeUnit).toNat = 0xDBFF := rfl
    have h3 : (0xDC00 : CodeUnit).toNat = 0xDC00 := rfl
    have h4 : (0xDFFF : CodeUnit).toNat = 0xDFFF := rfl
    omega
  fun_induction points t with
  | case1 => cases h
  | case2 v =>
    rw [List.mem_singleton] at h ⊢
    rw [h]
  | case3 v w rest hpair ih =>
    simp only [Bool.and_eq_true] at hpair
    rcases List.mem_cons.1 h with rfl | h
    · rw [hhalf.1] at hpair
      exact absurd hpair.1 Bool.false_ne_true
    rcases List.mem_cons.1 h with rfl | h
    · rw [hhalf.2] at hpair
      exact absurd hpair.2 Bool.false_ne_true
    · exact List.mem_cons_of_mem _ (ih h)
  | case4 v w rest _ ih =>
    rcases List.mem_cons.1 h with rfl | h
    · exact List.mem_cons_self
    · exact List.mem_cons_of_mem _ (ih h)

theorem mem_lowerPoints {p : Nat} (hp : inRanges caselessRanges p = true) {ps : List Nat}
    (h : p ∈ ps) (seen : List Nat) : p ∈ lowerPoints seen ps := by
  have hbounds := isCaseless_bounds hp
  induction ps generalizing seen with
  | nil => cases h
  | cons q rest ih =>
    rw [lowerPoints]
    rcases List.mem_cons.1 h with rfl | h
    · have hdotted : p ≠ 0x130 := by omega
      have hsigma : p ≠ 0x3A3 := by omega
      simp only [if_neg hdotted, if_neg hsigma, apply_lowerRuns_of_caseless hp]
      exact List.mem_append_left _ List.mem_cons_self
    · exact List.mem_append_right _ (ih h _)

theorem mem_ofPoints {u : CodeUnit} {ps : List Nat} (h : u.toNat ∈ ps) : u ∈ ofPoints ps := by
  have hunits : unitsOfPoint u.toNat = [u] := by
    rw [unitsOfPoint, if_pos u.toNat_lt]
    simp
  exact List.mem_flatMap.2 ⟨u.toNat, h, by rw [hunits]; exact List.mem_cons_self⟩

/-- A caseless unit of a text is one of its lower case. -/
theorem mem_lower {u : CodeUnit} (hu : isCaseless u = true) {t : Text} (h : u ∈ t) : u ∈ t.lower :=
  mem_ofPoints (mem_lowerPoints hu (mem_points hu h) [])

end Text

/-! ### Blanks and marks -/

theorem isCaseless_of_isBlank {u : CodeUnit} (h : isBlank u = true) : isCaseless u = true := by
  simp only [isBlank, Bool.or_eq_true, Bool.and_eq_true, decide_eq_true_eq, beq_iff_eq,
    UInt16.le_iff_toNat_le, or_assoc] at h
  rcases h with ⟨-, h⟩ | h | h | h | ⟨hfirst, hlast⟩ | h
  · exact inRanges_iff.2 ⟨(0x0, 0x40), by decide, Nat.zero_le _, Nat.le_trans h (by decide)⟩
  · rw [h]; decide
  · rw [h]; decide
  · rw [h]; decide
  · exact inRanges_iff.2 ⟨(0x1FFD, 0x2125), by decide, Nat.le_trans (by decide) hfirst,
      Nat.le_trans hlast (by decide)⟩
  · rcases h with rfl | rfl | rfl | rfl | rfl | rfl <;> decide

theorem isCaseless_of_isBracket {u : CodeUnit} (h : isBracket u = true) : isCaseless u = true := by
  simp only [isBracket, Bool.or_eq_true, beq_iff_eq] at h
  rcases h with rfl | rfl
  · decide
  · decide

theorem isCaseless_comma : isCaseless comma = true := by decide

/-! ### Units below the letters -/

/-- No capital letter stands below U+0041, nor does the lower case of one. -/
theorem lowerRuns_bounds :
    ∀ run ∈ lowerRuns, 0x41 ≤ run.first ∧ 0x41 ≤ run.first + run.shift ∧ run.last + run.shift < 0x110000 := by
  decide +kernel

theorem apply_lowerRuns_cases (p : Nat) :
    CaseRun.apply lowerRuns p = p ∨
      0x41 ≤ p ∧ 0x41 ≤ CaseRun.apply lowerRuns p ∧ CaseRun.apply lowerRuns p < 0x110000 := by
  rw [CaseRun.apply]
  split
  · next run hfind =>
    have hrun := lowerRuns_bounds run (List.mem_of_find?_eq_some hfind)
    have hcovers := List.find?_some hfind
    simp only [CaseRun.covers, Bool.and_eq_true, decide_eq_true_eq] at hcovers
    right
    omega
  · exact .inl rfl

namespace Text

theorem lt_of_mem_points {t : Text} {p : Nat} (h : p ∈ t.points) : p < 0x110000 := by
  fun_induction points t with
  | case1 => cases h
  | case2 u =>
    rw [List.mem_singleton] at h
    have := u.toNat_lt
    omega
  | case3 u v rest hpair ih =>
    rcases List.mem_cons.1 h with hp | h
    · simp only [isLead, isTrail, Bool.and_eq_true, decide_eq_true_eq, UInt16.le_iff_toNat_le] at hpair
      have h2 : (0xDBFF : CodeUnit).toNat = 0xDBFF := rfl
      have h4 : (0xDFFF : CodeUnit).toNat = 0xDFFF := rfl
      unfold joinSurrogates at hp
      omega
    · exact ih h
  | case4 u v rest _ ih =>
    rcases List.mem_cons.1 h with rfl | h
    · have := u.toNat_lt
      omega
    · exact ih h

theorem lt_of_mem_lowerPoints {ps : List Nat} (h : ∀ p ∈ ps, p < 0x110000) {p : Nat} (seen : List Nat)
    (hp : p ∈ lowerPoints seen ps) : p < 0x110000 := by
  induction ps generalizing seen with
  | nil => cases hp
  | cons q rest ih =>
    rw [lowerPoints] at hp
    rcases List.mem_append.1 hp with hp | hp
    · have hq := h q List.mem_cons_self
      have happly := apply_lowerRuns_cases q
      split at hp
      · simp only [List.mem_cons, List.not_mem_nil, or_false] at hp
        omega
      · split at hp
        · split at hp <;> simp only [List.mem_singleton] at hp <;> omega
        · rw [List.mem_singleton] at hp
          omega
    · exact ih (fun p hp => h p (List.mem_cons_of_mem _ hp)) _ hp

section
variable {u : CodeUnit} (hu : u.toNat < 0x41)
include hu

theorem count_points (t : Text) : t.points.count u.toNat = t.count u := by
  fun_induction points t with
  | case1 => rfl
  | case2 v => simp [List.count_cons, UInt16.toNat_inj]
  | case3 v w rest hpair ih =>
    simp only [isLead, isTrail, Bool.and_eq_true, decide_eq_true_eq, UInt16.le_iff_toNat_le] at hpair
    have h1 : (0xD800 : CodeUnit).toNat = 0xD800 := rfl
    have h3 : (0xDC00 : CodeUnit).toNat = 0xDC00 := rfl
    have hv : v ≠ u := by rintro rfl; omega
    have hw : w ≠ u := by rintro rfl; omega
    have hjoined : joinSurrogates v w ≠ u.toNat := by unfold joinSurrogates; omega
    rw [List.count_cons_of_ne hjoined, List.count_cons_of_ne hv, List.count_cons_of_ne hw, ih]
  | case4 v w rest _ ih => simp only [List.count_cons (l := w :: rest), ← ih, List.count_cons, beq_iff_eq, UInt16.toNat_inj]

theorem count_lowerPoints (ps seen : List Nat) : (lowerPoints seen ps).count u.toNat = ps.count u.toNat := by
  induction ps generalizing seen with
  | nil => rfl
  | cons p rest ih =>
    rw [lowerPoints, List.count_append, ih]
    have happly := apply_lowerRuns_cases p
    split
    · next hdotted =>
      have hp : p ≠ u.toNat := by omega
      have hi : (0x69 : Nat) ≠ u.toNat := by omega
      have hdot : (0x307 : Nat) ≠ u.toNat := by omega
      simp only [List.count_cons_of_ne hp, List.count_cons_of_ne hi, List.count_cons_of_ne hdot,
        List.count_nil, Nat.zero_add]
    · split
      · next hsigma =>
        have hp : p ≠ u.toNat := by omega
        have hfinal : (0x3C2 : Nat) ≠ u.toNat := by omega
        have hsmall : (0x3C3 : Nat) ≠ u.toNat := by omega
        split <;> simp only [List.count_cons_of_ne hp, List.count_cons_of_ne hfinal,
          List.count_cons_of_ne hsmall, List.count_nil, Nat.zero_add]
      · rcases happly with happly | ⟨hfirst, hmapped, -⟩
        · rw [happly, List.count_cons, List.count_cons, List.count_nil, Nat.zero_add, Nat.add_comm]
        · have hp : p ≠ u.toNat := by omega
          have hq : CaseRun.apply lowerRuns p ≠ u.toNat := by omega
          rw [List.count_cons_of_ne hp, List.count_cons_of_ne hq, List.count_nil, Nat.zero_add]

theorem count_unitsOfPoint {p : Nat} (hp : p < 0x110000) :
    (unitsOfPoint p).count u = [p].count u.toNat := by
  rw [unitsOfPoint]
  split
  · next hbasic =>
    have hnat : (UInt16.ofNat p).toNat = p := UInt16.toNat_ofNat_of_lt' hbasic
    simp only [List.count_singleton, ← UInt16.toNat_inj, hnat, beq_iff_eq]
  · next hbasic =>
    have hlead : (leadSurrogate p).toNat = 0xD800 + (p - 0x10000) / 0x400 :=
      UInt16.toNat_ofNat_of_lt' (by rw [UInt16.size]; omega)
    have htrail : (trailSurrogate p).toNat = 0xDC00 + (p - 0x10000) % 0x400 :=
      UInt16.toNat_ofNat_of_lt' (by rw [UInt16.size]; omega)
    have hl : leadSurrogate p ≠ u := by rintro rfl; omega
    have ht : trailSurrogate p ≠ u := by rintro rfl; omega
    have hpoint : p ≠ u.toNat := by omega
    rw [List.count_cons_of_ne hl, List.count_cons_of_ne ht, List.count_cons_of_ne hpoint,
      List.count_nil, List.count_nil]

theorem count_ofPoints {ps : List Nat} (hps : ∀ p ∈ ps, p < 0x110000) :
    (ofPoints ps).count u = ps.count u.toNat := by
  induction ps with
  | nil => rfl
  | cons p rest ih =>
    obtain ⟨hp, hrest⟩ := List.forall_mem_cons.1 hps
    rw [← List.singleton_append, List.count_append, ← ih hrest, ← count_unitsOfPoint hu hp,
      ← List.count_append]
    rfl

/-- A unit below the letters stands in the lower case of a text as often as in the text. -/
theorem count_lower (t : Text) : t.lower.count u = t.count u := by
  rw [lower, count_ofPoints hu (fun p => lt_of_mem_lowerPoints (fun _ => lt_of_mem_points) []),
    count_lowerPoints hu, count_points hu]

end

end Text

end NamePattern
