import NamePattern.Proofs.Text.Reading

/-!
Where a template has a token. A template may have one token, whose name is a single unit, its mark. Percent
signs are taken in pairs from the left, so of a run of them only the last one can begin a token, and it does
so just if their number is odd and the mark, by itself or in braces, follows.
-/

namespace NamePattern

/-- A text stands in a template behind an odd number of percent signs, so that the last of them is not
taken together with another one. -/
def Unescaped (written t : Text) : Prop :=
  ∃ front pairs after,
    t = front ++ (List.replicate (2 * pairs + 1) percent ++ (written ++ after)) ∧
      front.getLast? ≠ some percent

/-- A mark in braces. -/
def inBraces (mark : CodeUnit) : Text := [openBrace, mark, closeBrace]

/-- A template has a token: its mark stands in it by itself or in braces, behind a percent sign that begins
a token. -/
def HasToken (mark : CodeUnit) (t : Text) : Prop := Unescaped [mark] t ∨ Unescaped (inBraces mark) t

/-! ### Runs of percent signs -/

theorem getLast_of_cons {u : CodeUnit} {t : Text} (h : (u :: t).getLast? ≠ some percent) :
    t.getLast? ≠ some percent := by
  cases t with
  | nil => simp
  | cons v rest => rwa [List.getLast?_cons_cons] at h

theorem getLast_cons {u : CodeUnit} {t : Text} (hu : t = [] → u ≠ percent)
    (h : t.getLast? ≠ some percent) : (u :: t).getLast? ≠ some percent := by
  cases t with
  | nil => simpa using hu rfl
  | cons v rest => rwa [List.getLast?_cons_cons]

namespace Unescaped
variable {written t : Text}

theorem ne_nil : ¬ Unescaped written [] := by
  rintro ⟨front, pairs, after, h, -⟩
  simp [List.replicate_succ] at h

theorem cons_other {v : CodeUnit} (hv : v ≠ percent) :
    Unescaped written (v :: t) ↔ Unescaped written t := by
  constructor
  · rintro ⟨front, pairs, after, h, hlast⟩
    rcases front with _ | ⟨w, front⟩
    · rw [List.nil_append, List.replicate_succ] at h
      exact absurd (List.head_eq_of_cons_eq h) hv
    · exact ⟨front, pairs, after, List.tail_eq_of_cons_eq h, getLast_of_cons hlast⟩
  · rintro ⟨front, pairs, after, rfl, hlast⟩
    exact ⟨v :: front, pairs, after, rfl, getLast_cons (fun _ => hv) hlast⟩

/-- A pair of percent signs changes nothing for what stands behind it. -/
theorem cons_pair {u : CodeUnit} {more : Text} (hu : u ≠ percent) :
    Unescaped (u :: more) (percent :: percent :: t) ↔ Unescaped (u :: more) t := by
  constructor
  · rintro ⟨front, pairs, after, h, hlast⟩
    -- with one unit in front of the run, that unit would be a percent sign itself
    rcases front with _ | ⟨v, _ | ⟨w, front⟩⟩
    · cases pairs with
      | zero =>
        simp only [List.nil_append, Nat.mul_zero, Nat.zero_add, List.replicate_one, List.cons_append,
          List.cons.injEq, true_and] at h
        exact absurd h.1.symm hu
      | succ pairs =>
        refine ⟨[], pairs, after, ?_, by simp⟩
        rw [List.nil_append, Nat.mul_succ, List.replicate_succ, List.replicate_succ] at h
        exact List.tail_eq_of_cons_eq (List.tail_eq_of_cons_eq h)
    · exact absurd (congrArg some (List.head_eq_of_cons_eq h).symm) hlast
    · exact ⟨front, pairs, after, List.tail_eq_of_cons_eq (List.tail_eq_of_cons_eq h),
        getLast_of_cons (getLast_of_cons hlast)⟩
  · rintro ⟨front, pairs, after, rfl, hlast⟩
    rcases front with _ | ⟨v, front⟩
    · refine ⟨[], pairs + 1, after, ?_, by simp⟩
      rw [Nat.mul_succ, List.replicate_succ, List.replicate_succ]
      rfl
    · exact ⟨percent :: percent :: v :: front, pairs, after, rfl,
        getLast_cons (by simp) (getLast_cons (by simp) hlast)⟩

/-- Behind a percent sign that is not followed by another one stands what follows it. -/
theorem cons_single (hpair : t.head? ≠ some percent) :
    Unescaped written (percent :: t) ↔ written <+: t ∨ Unescaped written t := by
  constructor
  · rintro ⟨front, pairs, after, h, hlast⟩
    rcases front with _ | ⟨v, front⟩
    · cases pairs with
      | zero => exact .inl ⟨after, (List.tail_eq_of_cons_eq h).symm⟩
      | succ pairs =>
        rw [List.nil_append, Nat.mul_succ, List.replicate_succ, List.replicate_succ] at h
        rw [List.tail_eq_of_cons_eq h] at hpair
        exact absurd rfl hpair
    · exact .inr ⟨front, pairs, after, List.tail_eq_of_cons_eq h, getLast_of_cons hlast⟩
  · rintro (⟨after, rfl⟩ | ⟨front, pairs, after, rfl, hlast⟩)
    · exact ⟨[], 0, after, rfl, by simp⟩
    · refine ⟨percent :: front, pairs, after, rfl, getLast_cons ?_ hlast⟩
      rintro rfl
      exact absurd rfl hpair

/-- What stands behind a percent sign that begins a token stands behind a percent sign. -/
theorem occurs (h : Unescaped written t) : percent :: written <:+: t := by
  obtain ⟨front, pairs, after, rfl, -⟩ := h
  refine ⟨front ++ List.replicate (2 * pairs) percent, after, ?_⟩
  rw [List.replicate_succ']
  simp

end Unescaped

/-! ### Tokens of a template -/

section
variable {mark : CodeUnit} {t : Text}

theorem HasToken.cons_other {u : CodeUnit} (hu : u ≠ percent) :
    HasToken mark (u :: t) ↔ HasToken mark t :=
  or_congr (Unescaped.cons_other hu) (Unescaped.cons_other hu)

theorem HasToken.cons_single (hpair : t.head? ≠ some percent) :
    HasToken mark (percent :: t) ↔ [mark] <+: t ∨ inBraces mark <+: t ∨ HasToken mark t := by
  rw [HasToken, inBraces, Unescaped.cons_single hpair, Unescaped.cons_single hpair, or_or_or_comm,
    or_assoc]
  rfl

variable (hpercent : mark ≠ percent)
include hpercent

theorem HasToken.cons_pair : HasToken mark (percent :: percent :: t) ↔ HasToken mark t :=
  or_congr (Unescaped.cons_pair hpercent) (Unescaped.cons_pair (by decide))

theorem hasToken_placeholder : HasToken mark [percent, mark] := by
  have hpair : [mark].head? ≠ some percent := by simpa using hpercent
  exact (HasToken.cons_single hpair).2 (.inl List.prefix_rfl)

variable (hclose : mark ≠ closeBrace)
include hclose

theorem Reading.token_mem_iff {parts : List TemplatePart} (h : Reading (· ∈ [[mark]]) t parts) :
    .token [mark] ∈ parts ↔ HasToken mark t := by
  induction h with
  | nil => simp [HasToken, Unescaped.ne_nil]
  | other hu _ ih =>
    rw [HasToken.cons_other hu, ← ih]
    simp
  | pair _ ih =>
    rw [HasToken.cons_pair hpercent, ← ih]
    simp
  | braced h _ _ =>
    obtain rfl := List.mem_singleton.1 h.mem
    refine iff_of_true List.mem_cons_self ?_
    exact (HasToken.cons_single h.head_eq).2 (.inr (.inl ⟨_, h.eq.symm⟩))
  | bare hpair _ h _ _ =>
    obtain rfl := List.mem_singleton.1 h.mem
    refine iff_of_true List.mem_cons_self ?_
    exact (HasToken.cons_single hpair).2 (.inl ⟨_, h.eq.symm⟩)
  | @lone rest _ hpair hbrace hnone _ ih =>
    have hbare : ¬ [mark] <+: rest := hnone [mark] (List.mem_singleton_self _)
    have hbraced : ¬ inBraces mark <+: rest := by
      rintro ⟨after, rfl⟩
      exact hbrace [mark] after ⟨rfl, by simpa using hclose.symm, List.mem_singleton_self _⟩
    rw [HasToken.cons_single hpair, or_iff_right hbare, or_iff_right hbraced, ← ih]
    simp

/-- Parsing a template finds a token just if there is one. -/
theorem token_mem_parseTemplate : .token [mark] ∈ parseTemplate [[mark]] t ↔ HasToken mark t :=
  (reading_parseTemplate [[mark]] t).token_mem_iff hpercent hclose

end

/-! ### Values of tokens -/

section
variable {name : Text} (value : Text)

theorem fill_token : TemplatePart.fill [(name, value)] (.token name) = value := by
  simp [TemplatePart.fill]

/-- The value of a token that a template has stands in its expansion. -/
theorem value_occurs {t : Text} (h : .token name ∈ parseTemplate [name] t) :
    value <:+: expandTemplate [(name, value)] t := by
  obtain ⟨before, after, hparts⟩ := List.append_of_mem h
  refine ⟨before.flatMap (TemplatePart.fill [(name, value)]),
    after.flatMap (TemplatePart.fill [(name, value)]), ?_⟩
  rw [expandTemplate, List.map_cons, List.map_nil, hparts, List.flatMap_append, List.flatMap_cons,
    fill_token, List.append_assoc]

theorem undouble_single {u : CodeUnit} {t : Text} (h : t.head? ≠ some u) :
    Text.undouble u (u :: t) = u :: Text.undouble u t := by
  cases t with
  | nil => rfl
  | cons v rest =>
    have hv : v ≠ u := fun hv => h (congrArg some hv)
    simp [Text.undouble, hv]

/-- A template without its token is a text in which percent signs are written twice. -/
theorem Reading.fill_of_not_mem {known : Text → Prop} {t : Text} {parts : List TemplatePart}
    (h : Reading known t parts) (values : List (Text × Text))
    (hnone : ∀ name, .token name ∉ parts) :
    parts.flatMap (TemplatePart.fill values) = Text.undouble percent t := by
  induction h with
  | nil => rfl
  | other hu _ ih =>
    rw [List.flatMap_cons, ih fun name h => hnone name (List.mem_cons_of_mem _ h), undouble_other hu]
    rfl
  | pair _ ih =>
    rw [List.flatMap_cons, ih fun name h => hnone name (List.mem_cons_of_mem _ h), undouble_pair]
    rfl
  | braced _ _ | bare _ _ _ _ => exact absurd List.mem_cons_self (hnone _)
  | lone hpair _ _ _ ih =>
    rw [List.flatMap_cons, ih fun name h => hnone name (List.mem_cons_of_mem _ h),
      undouble_single hpair]
    rfl

theorem expandTemplate_of_not_mem {t : Text} (h : .token name ∉ parseTemplate [name] t) :
    expandTemplate [(name, value)] t = Text.undouble percent t := by
  have hreading := reading_parseTemplate [name] t
  refine hreading.fill_of_not_mem [(name, value)] fun other hother => h ?_
  rwa [List.mem_singleton.1 (hreading.known_of_mem hother)] at hother

end

end NamePattern
