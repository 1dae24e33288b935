import NamePattern.Pattern.Writer
import NamePattern.Proofs.Pattern.Argument

/-!
Doubled brackets and wrapped arguments read back. Making single undoes doubling. A doubled text goes
through a group's source and through the splitting of arguments without opening or closing anything,
and a wrapped argument gives back its value whatever brackets stand at its two ends.
-/

namespace NamePattern

/-! ### Doubling and making single -/

theorem doubleBrackets_nil : doubleBrackets [] = [] := rfl

theorem doubleBrackets_bracket {u : CodeUnit} (hu : isBracket u = true) (t : Text) :
    doubleBrackets (u :: t) = u :: u :: doubleBrackets t := by
  simp [doubleBrackets, hu]

theorem doubleBrackets_other {u : CodeUnit} (hu : isBracket u = false) (t : Text) :
    doubleBrackets (u :: t) = u :: doubleBrackets t := by
  simp [doubleBrackets, hu]

/-- Doubling leaves the first unit where it is. -/
theorem head_doubleBrackets_append {u v : CodeUnit} (h : u ≠ v) (t rest : Text) :
    (doubleBrackets (u :: t) ++ rest).head? ≠ some v := by
  cases hu : isBracket u with
  | true => rw [doubleBrackets_bracket hu]; exact head_cons_ne h _
  | false => rw [doubleBrackets_other hu]; exact head_cons_ne h _

theorem undouble_pair (u : CodeUnit) (t : Text) :
    Text.undouble u (u :: u :: t) = u :: Text.undouble u t := by
  simp [Text.undouble]

theorem undouble_other {u v : CodeUnit} (h : v ≠ u) (t : Text) :
    Text.undouble u (v :: t) = v :: Text.undouble u t := by
  cases t with
  | nil => rfl
  | cons w rest => simp [Text.undouble, h]

theorem double_self (u : CodeUnit) (t : Text) : Text.double u (u :: t) = u :: u :: Text.double u t := by
  simp [Text.double]

theorem double_other {u v : CodeUnit} (h : v ≠ u) (t : Text) :
    Text.double u (v :: t) = v :: Text.double u t := by
  simp [Text.double, h]

theorem undouble_double (u : CodeUnit) (t : Text) : Text.undouble u (Text.double u t) = t := by
  induction t with
  | nil => rfl
  | cons v rest ih =>
    by_cases h : v = u
    · subst h
      rw [double_self, undouble_pair, ih]
    · rw [double_other h, undouble_other h, ih]

/-- With the opening brackets made single, the closing ones are what is still doubled. -/
theorem undouble_open_doubleBrackets (t : Text) :
    Text.undouble openBracket (doubleBrackets t) = Text.double closeBracket t := by
  induction t with
  | nil => rfl
  | cons u rest ih =>
    rcases bracket_cases u with rfl | rfl | hu
    · rw [doubleBrackets_bracket isBracket_openBracket, undouble_pair, ih,
        double_other openBracket_ne_closeBracket]
    · rw [doubleBrackets_bracket isBracket_closeBracket,
        undouble_other openBracket_ne_closeBracket.symm,
        undouble_other openBracket_ne_closeBracket.symm, ih, double_self]
    · obtain ⟨ho, hc⟩ := isBracket_eq_false.1 hu
      rw [doubleBrackets_other hu, undouble_other ho, ih, double_other hc]

theorem undoubleBrackets_doubleBrackets (t : Text) : undoubleBrackets (doubleBrackets t) = t := by
  rw [undoubleBrackets, undouble_open_doubleBrackets, undouble_double]

/-! ### Doubled brackets within a group -/

theorem Enclosed.plain_append {n : Nat} {t rest : Text} (ht : ∀ u ∈ t, isBracket u = false)
    (h : Enclosed n rest) : Enclosed n (t ++ rest) := by
  induction t with
  | nil => exact h
  | cons u more ih =>
    obtain ⟨hu, hmore⟩ := List.forall_mem_cons.1 ht
    exact .other hu (ih hmore)

theorem Enclosed.doubled_append {n : Nat} {rest : Text} (t : Text) (h : Enclosed (n + 1) rest) :
    Enclosed (n + 1) (doubleBrackets t ++ rest) := by
  induction t with
  | nil => exact h
  | cons u more ih =>
    rcases bracket_cases u with rfl | rfl | hu
    · rw [doubleBrackets_bracket isBracket_openBracket]
      exact .openPair ih
    · rw [doubleBrackets_bracket isBracket_closeBracket]
      exact .closePair ih
    · rw [doubleBrackets_other hu]
      exact .other hu ih

/-- A wrapped argument within a group opens one nested stretch and closes it again. -/
theorem Enclosed.wrapped_append {rest : Text} (t : Text) (hd : rest.head? ≠ some closeBracket)
    (hne : rest ≠ []) (h : Enclosed 0 rest) :
    Enclosed 0 (bracketed (doubleBrackets t) ++ rest) := by
  have hclosed : Enclosed 1 (closeBracket :: rest) := .closeSingle hd hne h
  have hopened := Enclosed.openFirst (hclosed.doubled_append t)
  simpa [bracketed] using hopened

/-! ### Arguments that are split as they were written -/

/-- An argument that the splitting takes as a whole: what follows it is split as if it stood alone,
unless its last bracket is doubled by what follows. -/
def Whole (t : Text) : Prop :=
  ∀ rest : Text, rest.head? ≠ some closeBracket →
    argumentsFrom false (t ++ rest) = prependToFirst t (argumentsFrom false rest)

theorem whole_plain {t : Text} (hb : ∀ u ∈ t, isBracket u = false) (hc : comma ∉ t) : Whole t := by
  intro rest hd
  induction t with
  | nil => cases hrest : argumentsFrom false rest <;> simp [prependToFirst, hrest]
  | cons u more ih =>
    obtain ⟨hu, hmore⟩ := List.forall_mem_cons.1 hb
    rw [List.mem_cons, not_or] at hc
    rw [List.cons_append, argumentsFrom_other false hu (Ne.symm hc.1), ih hmore hc.2,
      prependToFirst_append, List.singleton_append]

theorem Whole.append {s t : Text} (hs : Whole s) (ht : Whole t) (hne : t ≠ [])
    (hd : t.head? ≠ some closeBracket) : Whole (s ++ t) := by
  intro rest hrest
  rw [List.append_assoc, hs (t ++ rest) (head_append_ne hne hd rest), ht rest hrest,
    prependToFirst_append]

/-- Within a wrapped argument the doubled text changes nothing and the bracket after it closes. -/
theorem argumentsFrom_doubled_close (t : Text) {rest : Text} (hd : rest.head? ≠ some closeBracket) :
    argumentsFrom true (doubleBrackets t ++ closeBracket :: rest)
      = prependToFirst (doubleBrackets t ++ [closeBracket]) (argumentsFrom false rest) := by
  induction t with
  | nil => exact argumentsFrom_close true hd
  | cons u more ih =>
    cases hu : isBracket u with
    | true =>
      rw [doubleBrackets_bracket hu, List.cons_append, List.cons_append, argumentsFrom_doubled true hu,
        ih, prependToFirst_append]
      rfl
    | false =>
      rw [doubleBrackets_other hu, List.cons_append]
      by_cases hc : u = comma
      · subst hc
        rw [argumentsFrom_comma_wrapped, ih, prependToFirst_append]
        rfl
      · rw [argumentsFrom_other true hu hc, ih, prependToFirst_append]
        rfl

/-- In a run of opening brackets it is the last one that opens the argument, so the splitting pairs
the wrapping bracket with one of the doubled text's as long as that text begins with a bracket. -/
theorem whole_wrapped (t : Text) : Whole (bracketed (doubleBrackets t)) := by
  intro rest hd
  have hclose := fun s => argumentsFrom_doubled_close s hd
  simp only [bracketed, List.cons_append, List.append_assoc, List.nil_append]
  induction t with
  | nil =>
    have hnext := head_cons_ne openBracket_ne_closeBracket.symm rest
    rw [doubleBrackets_nil, List.nil_append, argumentsFrom_open false hnext]
    have hnil := hclose []
    rw [doubleBrackets_nil, List.nil_append] at hnil
    rw [hnil, prependToFirst_append]
    rfl
  | cons u more ih =>
    by_cases ho : u = openBracket
    · subst ho
      rw [doubleBrackets_bracket isBracket_openBracket, List.cons_append, List.cons_append,
        argumentsFrom_doubled false isBracket_openBracket, ih, prependToFirst_append]
      rfl
    · rw [argumentsFrom_open false (head_doubleBrackets_append ho more _), hclose (u :: more),
        prependToFirst_append]
      rfl

/-- Whole arguments with commas between them are split at these commas. -/
theorem splitArguments_joined {args : List Text} (hwhole : ∀ arg ∈ args, Whole arg)
    (hne : args ≠ []) : splitArguments (Text.joined [comma] args) = args := by
  rw [splitArguments]
  induction args with
  | nil => exact absurd rfl hne
  | cons first rest ih =>
    obtain ⟨hfirst, hrest⟩ := List.forall_mem_cons.1 hwhole
    by_cases hnil : rest = []
    · subst hnil
      have hsplit := hfirst [] (by simp)
      rw [List.append_nil] at hsplit
      rw [joined_singleton, hsplit]
      simp [argumentsFrom, prependToFirst]
    · have hcomma := head_cons_ne (Ne.symm (bracket_ne_comma isBracket_closeBracket))
        (Text.joined [comma] rest)
      rw [joined_cons hnil, List.append_assoc, List.singleton_append, hfirst _ hcomma,
        argumentsFrom_comma, ih hrest hnil]
      simp [prependToFirst]

/-! ### Values of wrapped arguments -/

/-- Trimming takes the blanks around a text and stops at its ends if these are none. -/
theorem trim_between {front t back : Text} (hfront : ∀ u ∈ front, isBlank u = true)
    (hback : ∀ u ∈ back, isBlank u = true) (hne : t ≠ [])
    (hends : ∀ u, t.head? = some u ∨ t.getLast? = some u → isBlank u = false) :
    (front ++ t ++ back).trim = t := by
  have hstart : (front ++ t ++ back).trimStart = t ++ back := by
    rw [Text.trimStart, List.append_assoc, List.dropWhile_append_of_pos hfront]
    cases t with
    | nil => exact absurd rfl hne
    | cons u rest =>
      have hu := hends u (Or.inl rfl)
      rw [List.cons_append, List.dropWhile_cons_of_neg (by simp [hu])]
  have hback' : ∀ u ∈ back.reverse, isBlank u = true := fun u hu => hback u (List.mem_reverse.1 hu)
  rw [Text.trim, hstart, Text.trimEnd, List.reverse_append, List.dropWhile_append_of_pos hback']
  rcases List.eq_nil_or_concat t with rfl | ⟨rest, u, rfl⟩
  · exact absurd rfl hne
  · have hu := hends u (Or.inr (by simp))
    rw [List.concat_eq_append, List.reverse_concat, List.dropWhile_cons_of_neg (by simp [hu]),
      List.reverse_cons, List.reverse_reverse]

theorem getLast_bracketed (t : Text) : (bracketed t).getLast? = some closeBracket :=
  List.getLast?_concat (l := openBracket :: t)

theorem trim_bracketed {front back : Text} (t : Text) (hfront : ∀ u ∈ front, isBlank u = true)
    (hback : ∀ u ∈ back, isBlank u = true) :
    (front ++ bracketed t ++ back).trim = bracketed t := by
  refine trim_between hfront hback (List.cons_ne_nil _ _) ?_
  rintro u (h | h)
  · obtain rfl := Option.some.inj h
    decide
  · obtain rfl := Option.some.inj ((getLast_bracketed t).symm.trans h)
    decide

theorem unwrapped_bracketed (t : Text) : unwrapped (bracketed t) = t := by
  rw [unwrapped, getLast_bracketed]
  simp [bracketed]

theorem argumentValue_wrapped {front back : Text} (t : Text)
    (hfront : ∀ u ∈ front, isBlank u = true) (hback : ∀ u ∈ back, isBlank u = true) :
    argumentValue? (front ++ bracketed (doubleBrackets t) ++ back) = some t := by
  rw [argumentValue?, trim_bracketed _ hfront hback, unwrapped_bracketed,
    undoubleBrackets_doubleBrackets]
  rfl

end NamePattern
