import NamePattern.Pattern.Argument
import NamePattern.Proofs.Pattern.Enclosed
import NamePattern.Proofs.Text.Cut

/-!
The splitting of an argument list, one unit or one doubled bracket at a time, and how arguments are
put together again with the commas between them.
-/

namespace NamePattern

/-! ### Splitting -/

theorem comma_not_bracket : isBracket comma = false := by decide

section
variable (wrapped : Bool)

theorem argumentsFrom_other {u : CodeUnit} (hu : isBracket u = false) (hc : u ≠ comma) (t : Text) :
    argumentsFrom wrapped (u :: t) = prependToFirst [u] (argumentsFrom wrapped t) := by
  obtain ⟨hopen, hclose⟩ := isBracket_eq_false.1 hu
  cases t with
  | nil => cases wrapped <;> simp [argumentsFrom, prependToFirst, hc, hopen, hclose]
  | cons v rest => simp [argumentsFrom, hc, hu]

/-- A comma within a wrapped argument belongs to it. -/
theorem argumentsFrom_comma_wrapped (t : Text) :
    argumentsFrom true (comma :: t) = prependToFirst [comma] (argumentsFrom true t) := by
  cases t with
  | nil => simp [argumentsFrom, prependToFirst]
  | cons v rest => simp [argumentsFrom, comma_not_bracket]

/-- A comma outside ends an argument. -/
theorem argumentsFrom_comma (t : Text) :
    argumentsFrom false (comma :: t) = [] :: argumentsFrom false t := by
  cases t with
  | nil => simp [argumentsFrom]
  | cons v rest => simp [argumentsFrom]

theorem bracket_ne_comma {u : CodeUnit} (hu : isBracket u = true) : u ≠ comma := by
  rintro rfl
  rw [comma_not_bracket] at hu
  cases hu

theorem argumentsFrom_doubled {u : CodeUnit} (hu : isBracket u = true) (t : Text) :
    argumentsFrom wrapped (u :: u :: t) = prependToFirst [u, u] (argumentsFrom wrapped t) := by
  simp [argumentsFrom, bracket_ne_comma hu, hu]

/-- A bracket on its own opens or closes an argument, whatever was open before. -/
theorem argumentsFrom_bracket {u : CodeUnit} {t : Text} (hu : isBracket u = true)
    (hd : t.head? ≠ some u) :
    argumentsFrom wrapped (u :: t) = prependToFirst [u] (argumentsFrom (u == openBracket) t) := by
  have hc := bracket_ne_comma hu
  cases t with
  | nil =>
    rcases isBracket_eq_true.1 hu with rfl | rfl
    · simp [argumentsFrom, prependToFirst, hc]
    · simp [argumentsFrom, prependToFirst, hc, openBracket_ne_closeBracket.symm]
  | cons v rest =>
    have hv : v ≠ u := by simpa using hd
    simp [argumentsFrom, hc, hu, hv]

theorem argumentsFrom_open {t : Text} (hd : t.head? ≠ some openBracket) :
    argumentsFrom wrapped (openBracket :: t)
      = prependToFirst [openBracket] (argumentsFrom true t) :=
  argumentsFrom_bracket wrapped isBracket_openBracket hd

theorem argumentsFrom_close {t : Text} (hd : t.head? ≠ some closeBracket) :
    argumentsFrom wrapped (closeBracket :: t)
      = prependToFirst [closeBracket] (argumentsFrom false t) :=
  argumentsFrom_bracket wrapped isBracket_closeBracket hd

end

/-! ### Arguments put together -/

theorem prependToFirst_ne_nil {t : Text} {args : List Text} (h : args ≠ []) :
    prependToFirst t args ≠ [] := by
  cases args with
  | nil => exact absurd rfl h
  | cons first rest => simp [prependToFirst]

theorem prependToFirst_append (s t : Text) (args : List Text) :
    prependToFirst s (prependToFirst t args) = prependToFirst (s ++ t) args := by
  cases args with
  | nil => rfl
  | cons first rest => simp [prependToFirst]

theorem joined_cons {separator first : Text} {rest : List Text} (h : rest ≠ []) :
    Text.joined separator (first :: rest) = first ++ separator ++ Text.joined separator rest := by
  cases rest with
  | nil => exact absurd rfl h
  | cons second more => simp [Text.joined]

theorem joined_singleton (separator first : Text) : Text.joined separator [first] = first := by
  simp [Text.joined]

theorem joined_prependToFirst {separator t : Text} {args : List Text} (h : args ≠ []) :
    Text.joined separator (prependToFirst t args) = t ++ Text.joined separator args := by
  cases args with
  | nil => exact absurd rfl h
  | cons first rest =>
    rcases List.eq_nil_or_concat rest with rfl | ⟨_, _, hrest⟩
    · rw [prependToFirst, joined_singleton, joined_singleton]
    · have hne : rest ≠ [] := by rw [hrest]; simp
      rw [prependToFirst, joined_cons hne, joined_cons hne]
      simp only [List.append_assoc]

/-- The splitting of a text loses nothing: the text is its arguments with commas between them. -/
structure Rejoins (wrapped : Bool) (t : Text) : Prop where
  ne_nil : argumentsFrom wrapped t ≠ []
  joined : Text.joined [comma] (argumentsFrom wrapped t) = t

namespace Rejoins
variable {wrapped inner : Bool} {t : Text}

theorem nil_iff : Rejoins wrapped [] ↔ wrapped = false := by
  cases wrapped with
  | false => exact iff_of_true ⟨by simp [argumentsFrom], rfl⟩ rfl
  | true => exact iff_of_false (fun h => h.ne_nil rfl) (by decide)

/-- Units in front that belong to the first argument lose nothing, nor do they make up for anything that
is lost. -/
theorem prepend_iff (front : Text)
    (hsplit : argumentsFrom wrapped (front ++ t) = prependToFirst front (argumentsFrom inner t)) :
    Rejoins wrapped (front ++ t) ↔ Rejoins inner t := by
  constructor
  · intro h
    have hne : argumentsFrom inner t ≠ [] := by
      intro hnil
      exact h.ne_nil (by rw [hsplit, hnil]; rfl)
    have hjoined := h.joined
    rw [hsplit, joined_prependToFirst hne] at hjoined
    exact ⟨hne, List.append_cancel_left hjoined⟩
  · intro h
    refine ⟨?_, ?_⟩
    · rw [hsplit]
      exact prependToFirst_ne_nil h.ne_nil
    · rw [hsplit, joined_prependToFirst h.ne_nil, h.joined]

theorem comma_iff : Rejoins false (comma :: t) ↔ Rejoins false t := by
  have hsplit := argumentsFrom_comma t
  constructor
  · intro h
    have hjoined := h.joined
    rw [hsplit] at hjoined
    have hne : argumentsFrom false t ≠ [] := by
      intro hnil
      rw [hnil, joined_singleton] at hjoined
      cases hjoined
    rw [joined_cons hne] at hjoined
    exact ⟨hne, (List.cons.inj hjoined).2⟩
  · intro h
    refine ⟨by rw [hsplit]; simp, ?_⟩
    rw [hsplit, joined_cons h.ne_nil, h.joined]
    rfl

theorem other_iff {u : CodeUnit} (hu : isBracket u = false) :
    Rejoins wrapped (u :: t) ↔ Rejoins wrapped t := by
  by_cases hc : u = comma
  · subst hc
    cases wrapped with
    | true => exact prepend_iff [comma] (argumentsFrom_comma_wrapped t)
    | false => exact comma_iff
  · exact prepend_iff [u] (argumentsFrom_other wrapped hu hc t)

theorem doubled_iff {u : CodeUnit} (hu : isBracket u = true) :
    Rejoins wrapped (u :: u :: t) ↔ Rejoins wrapped t :=
  prepend_iff [u, u] (argumentsFrom_doubled wrapped hu t)

theorem single_iff {u : CodeUnit} (hu : isBracket u = true) (hd : t.head? ≠ some u) :
    Rejoins wrapped (u :: t) ↔ Rejoins (u == openBracket) t :=
  prepend_iff [u] (argumentsFrom_bracket wrapped hu hd)

theorem other {u : CodeUnit} (hu : isBracket u = false) (h : Rejoins wrapped t) :
    Rejoins wrapped (u :: t) :=
  (other_iff hu).2 h

theorem doubled {u : CodeUnit} (hu : isBracket u = true) (h : Rejoins wrapped t) :
    Rejoins wrapped (u :: u :: t) :=
  (doubled_iff hu).2 h

theorem opened (hd : t.head? ≠ some openBracket) (h : Rejoins true t) :
    Rejoins wrapped (openBracket :: t) :=
  (single_iff isBracket_openBracket hd).2 h

theorem closed (hd : t.head? ≠ some closeBracket) (h : Rejoins false t) :
    Rejoins wrapped (closeBracket :: t) :=
  (single_iff isBracket_closeBracket hd).2 h

end Rejoins

/-! ### Cutting at the first comma -/

theorem ofSource_of_notMem {source : Text} (h : comma ∉ source) :
    Call.ofSource source = ⟨source.trim, []⟩ := by
  rw [Call.ofSource, cutAt_of_notMem h]

theorem ofSource_append {before : Text} (h : comma ∉ before) (after : Text) :
    Call.ofSource (before ++ comma :: after) = ⟨before.trim, splitArguments after⟩ := by
  rw [Call.ofSource, cutAt_append h]

end NamePattern
