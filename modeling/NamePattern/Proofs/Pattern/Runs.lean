import Mathlib.Algebra.Ring.Parity
import Mathlib.Data.List.SplitBy
import NamePattern.Proofs.Pattern.Dropped

/-!
Where the splitting of an argument list stands after a text. Brackets are taken in pairs from the left of each
run of equal ones, so a run of even length leaves the splitting as it was, and of a run of odd length the last
bracket opens or closes an argument, whatever was open before. Only the last run of odd length counts: after
closing brackets the splitting stands outside, nothing of the text is lost, and what follows a comma is split
as if it stood alone.

    run of `[`      even: as before      odd: inside
    run of `]`      even: as before      odd: outside
-/

namespace NamePattern

/-- The runs of one bracket in a text whose length is odd, from left to right. -/
def oddRuns (t : Text) : List Text :=
  (t.splitBy (· == ·)).filter fun run => run.all isBracket && run.length % 2 == 1

/-- Where the arguments of a text make up the text, nothing of it is lost. -/
theorem rejoins_iff_joined {t : Text} :
    Rejoins false t ↔ Text.joined [comma] (splitArguments t) = t := by
  refine ⟨Rejoins.joined, fun h => ⟨fun hnil => ?_, h⟩⟩
  rw [splitArguments, hnil] at h
  subst h
  exact absurd hnil (by decide)

/-! ### Runs -/

/-- A text begins with a run of its first unit. -/
theorem exists_run (u : CodeUnit) (t : Text) : ∃ n rest,
    u :: t = List.replicate (n + 1) u ++ rest ∧ rest.head? ≠ some u := by
  induction t with
  | nil => exact ⟨0, [], rfl, by simp⟩
  | cons v rest ih =>
    by_cases hv : v = u
    · subst hv
      obtain ⟨n, after, hrun, hd⟩ := ih
      exact ⟨n + 1, after, congrArg (v :: ·) hrun, hd⟩
    · exact ⟨0, v :: rest, rfl, head_cons_ne hv rest⟩

/-- Induction along the runs of a text. -/
theorem runs_induction {motive : Text → Prop} (nil : motive [])
    (run : ∀ u n t, t.head? ≠ some u → motive t → motive (List.replicate (n + 1) u ++ t))
    (t : Text) : motive t := by
  induction hlen : t.length using Nat.strongRecOn generalizing t with
  | ind length ih =>
    cases t with
    | nil => exact nil
    | cons u rest =>
      obtain ⟨n, after, hrun, hd⟩ := exists_run u rest
      have hshorter : after.length < length := by
        rw [← hlen, hrun, List.length_append, List.length_replicate]
        omega
      rw [hrun]
      exact run u n after hd (ih after.length hshorter after rfl)

theorem splitBy_run {u : CodeUnit} {t : Text} (hd : t.head? ≠ some u) (n : Nat) :
    (List.replicate (n + 1) u ++ t).splitBy (· == ·)
      = List.replicate (n + 1) u :: t.splitBy (· == ·) := by
  rw [List.splitBy_append, List.splitBy_of_isChain (by simp)]
  · rfl
  · exact List.isChain_replicate_of_rel _ (by simp)
  · intro v hv w hw
    obtain rfl := List.eq_of_mem_replicate (List.mem_of_getLast? hv)
    exact beq_false_of_ne fun hvw => hd (hvw ▸ hw)

theorem oddRuns_run {u : CodeUnit} {t : Text} (hd : t.head? ≠ some u) (n : Nat) :
    oddRuns (List.replicate (n + 1) u ++ t)
      = if isBracket u = true ∧ (n + 1) % 2 = 1 then List.replicate (n + 1) u :: oddRuns t
        else oddRuns t := by
  rw [oddRuns, splitBy_run hd, List.filter_cons]
  simp [oddRuns]

/-- A run of odd length is one of brackets, and not empty. -/
theorem eq_replicate_of_mem_oddRuns {t run : Text} (h : run ∈ oddRuns t) :
    ∃ u n, isBracket u = true ∧ run = List.replicate (n + 1) u := by
  induction t using runs_induction with
  | nil => cases h
  | run u n t hd ih =>
    rw [oddRuns_run hd] at h
    split at h
    · next hodd =>
      rcases List.mem_cons.1 h with rfl | h
      · exact ⟨u, n, hodd.1, rfl⟩
      · exact ih h
    · exact ih h

/-! ### The state after a run and after a text -/

theorem rejoins_run_other {wrapped : Bool} {u : CodeUnit} (hu : isBracket u = false) (n : Nat)
    (t : Text) : Rejoins wrapped (List.replicate n u ++ t) ↔ Rejoins wrapped t := by
  induction n with
  | zero => rfl
  | succ n ih => rw [List.replicate_succ, List.cons_append, Rejoins.other_iff hu, ih]

/-- Pairs of brackets leave the state as it was. -/
theorem rejoins_run_even {wrapped : Bool} {u : CodeUnit} (hu : isBracket u = true) (n : Nat)
    (t : Text) : Rejoins wrapped (List.replicate (2 * n) u ++ t) ↔ Rejoins wrapped t := by
  induction n with
  | zero => rfl
  | succ n ih =>
    rw [Nat.mul_succ, List.replicate_succ, List.replicate_succ, List.cons_append, List.cons_append,
      Rejoins.doubled_iff hu, ih]

theorem rejoins_run_odd {wrapped : Bool} {u : CodeUnit} (hu : isBracket u = true) {t : Text}
    (hd : t.head? ≠ some u) (n : Nat) :
    Rejoins wrapped (List.replicate (2 * n + 1) u ++ t) ↔ Rejoins (u == openBracket) t := by
  rw [List.replicate_succ', List.append_assoc, rejoins_run_even hu]
  exact Rejoins.single_iff hu hd

/-- Whether a run is one of opening brackets. -/
def opensArgument (run : Text) : Bool := run.head? == some openBracket

/-- Nothing of a text is lost if its last run of odd length does not open an argument, and if there is no
such run, if the splitting begins outside. -/
theorem rejoins_iff_oddRuns (wrapped : Bool) (t : Text) :
    Rejoins wrapped t ↔ ((oddRuns t).map opensArgument).getLastD wrapped = false := by
  induction t using runs_induction generalizing wrapped with
  | nil => exact Rejoins.nil_iff
  | run u n t hd ih =>
    rw [oddRuns_run hd]
    cases hu : isBracket u with
    | false => rw [if_neg (by simp), rejoins_run_other hu, ih]
    | true =>
      obtain ⟨m, hm | hm⟩ := Nat.even_or_odd' (n + 1)
      · rw [if_neg (by omega), hm, rejoins_run_even hu, ih]
      · rw [if_pos ⟨rfl, by omega⟩, hm, rejoins_run_odd hu hd, ih, List.map_cons, List.getLastD_cons]
        rfl

/-! ### Behind a comma -/

theorem prependToFirst_append_of_ne_nil {args : List Text} (h : args ≠ []) (t : Text)
    (more : List Text) : prependToFirst t (args ++ more) = prependToFirst t args ++ more := by
  cases args with
  | nil => exact absurd rfl h
  | cons first rest => rfl

/-- Behind a text of which nothing is lost, a comma ends an argument and the splitting begins anew. -/
theorem argumentsFrom_append_comma {wrapped : Bool} {a : Text} (h : Rejoins wrapped a) (b : Text) :
    argumentsFrom wrapped (a ++ comma :: b) = argumentsFrom wrapped a ++ splitArguments b := by
  induction wrapped, a using argumentsFrom_induction with
  | nil wrapped =>
    obtain rfl := Rejoins.nil_iff.1 h
    exact argumentsFrom_comma b
  | other wrapped u t hu hc ih =>
    have ht := (Rejoins.other_iff hu).1 h
    rw [List.cons_append, argumentsFrom_other wrapped hu hc, argumentsFrom_other wrapped hu hc, ih ht,
      prependToFirst_append_of_ne_nil ht.ne_nil]
  | comma t ih =>
    rw [List.cons_append, argumentsFrom_comma, argumentsFrom_comma, ih (Rejoins.comma_iff.1 h)]
    rfl
  | commaWrapped t ih =>
    have ht := (Rejoins.other_iff comma_not_bracket).1 h
    rw [List.cons_append, argumentsFrom_comma_wrapped, argumentsFrom_comma_wrapped, ih ht,
      prependToFirst_append_of_ne_nil ht.ne_nil]
  | doubled wrapped u t hu ih =>
    have ht := (Rejoins.doubled_iff hu).1 h
    rw [List.cons_append, List.cons_append, argumentsFrom_doubled wrapped hu,
      argumentsFrom_doubled wrapped hu, ih ht, prependToFirst_append_of_ne_nil ht.ne_nil]
  | single wrapped u t hu hd ih =>
    have ht := (Rejoins.single_iff hu hd).1 h
    -- the comma at the cut doubles no bracket before it
    have hcut : (t ++ comma :: b).head? ≠ some u := by
      cases t with
      | nil => exact head_cons_ne (bracket_ne_comma hu).symm b
      | cons v rest => exact hd
    rw [List.cons_append, argumentsFrom_bracket wrapped hu hcut, argumentsFrom_bracket wrapped hu hd,
      ih ht, prependToFirst_append_of_ne_nil ht.ne_nil]

/-! ### Argument lists -/

/-- The arguments of a text with commas between them are a beginning of the text. -/
theorem joined_splitArguments_isPrefix (t : Text) :
    Text.joined [comma] (splitArguments t) <+: t := by
  rcases splitting false t with h | h | ⟨rfl, hkept, hsame, -⟩
  · exact ⟨[], (List.append_nil _).trans h.joined⟩
  · rw [splitArguments, h]
    exact List.nil_prefix
  · rw [splitArguments, hsame, hkept.joined]
    exact List.prefix_append _ _

/-- The last run of odd length opens no argument if it is one of closing brackets. -/
theorem opensArgument_last_iff (t : Text) :
    ((oddRuns t).map opensArgument).getLastD false = false ↔
      ∀ run ∈ (oddRuns t).getLast?, ∀ u ∈ run, u = closeBracket := by
  rw [List.getLastD_eq_getLast?, List.getLast?_map]
  cases hlast : (oddRuns t).getLast? with
  | none => simp
  | some run =>
    obtain ⟨u, n, hu, rfl⟩ := eq_replicate_of_mem_oddRuns (List.mem_of_getLast? hlast)
    rcases isBracket_eq_true.1 hu with rfl | rfl
    · simp [opensArgument, List.replicate_succ, openBracket_ne_closeBracket]
    · simp [opensArgument, List.replicate_succ, openBracket_ne_closeBracket.symm]

/-- What follows a comma is split as if it stood alone, if the text before the comma is made up of its
arguments. The arguments of any text make up a beginning of it, and all of it just if its last run of
odd length, if there is one, is a run of closing brackets. -/
theorem splitting_is_told_by_last_odd_run :
    (∀ a b, Text.joined [comma] (splitArguments a) = a →
      splitArguments (a ++ comma :: b) = splitArguments a ++ splitArguments b) ∧
    ∀ t, Text.joined [comma] (splitArguments t) <+: t ∧
      (Text.joined [comma] (splitArguments t) = t ↔
        ∀ run ∈ (oddRuns t).getLast?, ∀ u ∈ run, u = closeBracket) := by
  refine ⟨fun a b h => argumentsFrom_append_comma (rejoins_iff_joined.2 h) b, fun t => ?_⟩
  refine ⟨joined_splitArguments_isPrefix t, ?_⟩
  rw [← rejoins_iff_joined, rejoins_iff_oddRuns, opensArgument_last_iff]

/-- A doubled bracket before a single one, a bracket that closes nothing and a comma within an argument. The
text behind the comma stays open, so its last argument is dropped from the whole as well. -/
theorem open_argument_is_dropped_behind_finished_ones :
    let a := text "[[[x, y], z]"
    let b := text "]], [[[w"
    (Text.joined [comma] (splitArguments a) = a ∧
      splitArguments (a ++ comma :: b) = [text "[[[x, y]", text " z]", text "]]"]) ∧
    oddRuns b = [text "[[["] ∧
    Text.joined [comma] (splitArguments b) ≠ b := by
  intro a b
  obtain ⟨happend, hjoined⟩ := splitting_is_told_by_last_odd_run
  have hfinished : oddRuns a = [text "[[[", text "]", text "]"] := by decide +kernel
  have hopen : oddRuns b = [text "[[["] := by decide +kernel
  have hwhole : Text.joined [comma] (splitArguments a) = a := by
    refine (hjoined a).2.2 fun run hrun u hu => ?_
    rw [hfinished] at hrun
    cases hrun
    exact List.mem_singleton.1 hu
  refine ⟨⟨hwhole, ?_⟩, hopen, fun h => ?_⟩
  · rw [happend a b hwhole]
    decide +kernel
  · have hclosed := (hjoined b).2.1 h
    rw [hopen] at hclosed
    exact absurd (hclosed _ rfl openBracket (by decide)) (by decide)

end NamePattern
