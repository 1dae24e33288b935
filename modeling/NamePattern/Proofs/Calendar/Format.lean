import Mathlib.Algebra.Ring.Parity
import NamePattern.Calendar.Strftime
import NamePattern.Proofs.Text.Token

/-!
Formats put together. A date is written by taking each percent sign together with the unit behind it, from the
left, so a format can be cut wherever no such pair is. The pairs within a run of percent signs begin where the
run does, since no percent sign stands before it. So the run at the end of the first part decides alone: if its
length is even, its last pair ends at the cut, and else it goes over it.
-/

namespace NamePattern

/-! ### One unit or one pair at a time -/

section
variable (date : Option Instant)

theorem formatDate_other {u : CodeUnit} (hu : u ≠ percent) (t : Text) :
    formatDate date (u :: t) = (formatDate date t).map (u :: ·) := by
  cases t with
  | nil => rfl
  | cons v rest => exact if_neg hu

theorem formatDate_directive (v : CodeUnit) (t : Text) :
    formatDate date (percent :: v :: t)
      = (writeDirective date v).bind fun written => (formatDate date t).map (written ++ ·) := by
  refine (if_pos rfl).trans ?_
  cases writeDirective date v with
  | error e => rfl
  | ok written => rfl

theorem formatDate_pair (t : Text) :
    formatDate date (percent :: percent :: t) = (formatDate date t).map (percent :: ·) :=
  formatDate_directive date percent t

end

/-- Induction along a format, with one case for each way in which it goes on. -/
theorem format_induction {motive : Text → Prop} (nil : motive []) (lone : motive [percent])
    (other : ∀ u t, u ≠ percent → motive t → motive (u :: t))
    (directive : ∀ v t, motive t → motive (percent :: v :: t)) (t : Text) : motive t := by
  -- a directive takes two units at once, so the induction is on the length
  induction h : t.length using Nat.strongRecOn generalizing t with
  | ind length ih =>
    subst h
    rcases t with _ | ⟨u, rest⟩
    · exact nil
    by_cases hu : u = percent
    · subst hu
      rcases rest with _ | ⟨v, rest⟩
      · exact lone
      · exact directive v rest (ih rest.length (by simp only [List.length_cons]; omega) rest rfl)
    · exact other u rest hu (ih rest.length (by simp) rest rfl)

/-! ### Cuts -/

section
variable (date : Option Instant)

/-- No directive goes over a cut behind a unit that is no percent sign. -/
theorem formatDate_append_of_last {front : Text} (h : front.getLast? ≠ some percent) (t : Text) :
    formatDate date (front ++ t)
      = (formatDate date front).bind fun written => (formatDate date t).map (written ++ ·) := by
  induction front using format_induction with
  | nil =>
    cases hrest : formatDate date t <;> simp [formatDate, hrest, Except.bind, Except.map]
  | lone => exact absurd rfl h
  | other u rest hu ih =>
    rw [List.cons_append, formatDate_other date hu, formatDate_other date hu, ih (getLast_of_cons h)]
    cases formatDate date rest <;> cases formatDate date t <;> rfl
  | directive v rest ih =>
    rw [List.cons_append, List.cons_append, formatDate_directive, formatDate_directive,
      ih (getLast_of_cons (getLast_of_cons h))]
    cases writeDirective date v <;> cases formatDate date rest <;> cases formatDate date t <;>
      simp [Except.bind, Except.map]

/-- A text with each percent sign doubled is written as it is, whatever format follows it. -/
theorem formatDate_double_append (s t : Text) :
    formatDate date (Text.double percent s ++ t) = (formatDate date t).map (s ++ ·) := by
  induction s with
  | nil => cases h : formatDate date t <;> simp [Text.double, h, Except.map]
  | cons u rest ih =>
    by_cases hu : u = percent
    · rw [hu, double_self, List.cons_append, List.cons_append, formatDate_pair, ih]
      cases formatDate date t <;> rfl
    · rw [double_other hu, List.cons_append, formatDate_other date hu, ih]
      cases formatDate date t <;> rfl

theorem formatDate_double (s : Text) : formatDate date (Text.double percent s) = .ok s := by
  have h := formatDate_double_append date s []
  rwa [List.append_nil, formatDate, Except.map, List.append_nil] at h

end

/-- A run of percent signs of even length is a shorter one with each of them doubled. -/
theorem double_replicate (u : CodeUnit) (n : Nat) :
    Text.double u (List.replicate n u) = List.replicate (n + n) u := by
  induction n with
  | zero => rfl
  | succ n ih =>
    have hcount : n + 1 + (n + 1) = n + n + 1 + 1 := by omega
    rw [List.replicate_succ, double_self, ih, hcount, List.replicate_succ, List.replicate_succ]

/-- A text at the end of which stands an even number of percent signs. -/
theorem exists_pairs {t : Text} (h : Even (t.rtakeWhile (· == percent)).length) :
    ∃ front n, t = front ++ Text.double percent (List.replicate n percent) ∧
      front.getLast? ≠ some percent := by
  obtain ⟨n, hn⟩ := h
  refine ⟨t.rdropWhile (· == percent), n, ?_, fun hlast => ?_⟩
  · rw [double_replicate, ← hn, ← rtakeWhile_eq_replicate]
    exact List.rdropWhile_append_rtakeWhile.symm
  · obtain ⟨hne, hpercent⟩ := List.mem_getLast?_eq_getLast hlast
    exact List.rdropWhile_last_not _ _ hne (by rw [← hpercent]; exact beq_self_eq_true percent)

/-! ### Dates that are in range -/

theorem exists_writeDirective (i : Instant) (u : CodeUnit) :
    ∃ written, writeDirective (some i) u = .ok written := by
  rw [writeDirective]
  split
  · exact ⟨_, rfl⟩
  · cases Directive.ofUnit? u with
    | none => exact ⟨_, rfl⟩
    | some directive => exact ⟨_, rfl⟩

/-- A date in range is written by any format. -/
theorem exists_formatDate (i : Instant) (t : Text) : ∃ written, formatDate (some i) t = .ok written := by
  induction t using format_induction with
  | nil => exact ⟨_, rfl⟩
  | lone => exact ⟨_, rfl⟩
  | other u t hu ih =>
    obtain ⟨more, hmore⟩ := ih
    rw [formatDate_other _ hu, hmore]
    exact ⟨_, rfl⟩
  | directive v t ih =>
    obtain ⟨written, hwritten⟩ := exists_writeDirective i v
    obtain ⟨more, hmore⟩ := ih
    rw [formatDate_directive, hwritten, hmore]
    exact ⟨_, rfl⟩

/-- A date in range is written by two formats, one behind the other, as it is written by each of them, if the
run of percent signs at the end of the first has even length. A text with its percent signs doubled is written
as it is, whatever the date. -/
theorem formats_are_written_apart :
    (∀ (i : Instant) (a b : Text), Even (a.rtakeWhile (· == percent)).length →
      ∃ first second, formatDate (some i) a = .ok first ∧ formatDate (some i) b = .ok second ∧
        formatDate (some i) (a ++ b) = .ok (first ++ second)) ∧
    ∀ (date : Option Instant) (s : Text), formatDate date (Text.double percent s) = .ok s := by
  refine ⟨fun i a b heven => ?_, formatDate_double⟩
  obtain ⟨front, n, rfl, hlast⟩ := exists_pairs heven
  obtain ⟨first, hfirst⟩ := exists_formatDate i front
  obtain ⟨second, hsecond⟩ := exists_formatDate i b
  refine ⟨first ++ List.replicate n percent, second, ?_, hsecond, ?_⟩
  · rw [formatDate_append_of_last _ hlast, hfirst, formatDate_double]
    rfl
  · rw [List.append_assoc, formatDate_append_of_last _ hlast, hfirst, formatDate_double_append, hsecond,
      List.append_assoc]
    rfl

/-- The noon of a leap day, cut behind two percent signs. A third one would make a year of the letter behind
the cut, and a date out of range is written only where no directive is. -/
theorem letter_behind_pair_is_no_directive :
    let noon : Instant := ⟨1709208000000⟩
    Even ((text "%d%%").rtakeWhile (· == percent)).length ∧
    (∃ first second, formatDate (some noon) (text "%d%%") = .ok first ∧
      formatDate (some noon) (text "Y%%%H") = .ok second ∧
      formatDate (some noon) (text "%d%%Y%%%H") = .ok (first ++ second) ∧
      first ++ second = text "29%Y%12") ∧
    formatDate (some noon) (text "%d%%%Y") = .ok (text "29%2024") ∧
    formatDate none (text "%%Y%%") = .ok (text "%Y%") := by
  intro noon
  obtain ⟨happend, hdouble⟩ := formats_are_written_apart
  have heven : Even ((text "%d%%").rtakeWhile (· == percent)).length := by decide +kernel
  have hnone : formatDate none (text "%%Y%%") = .ok (text "%Y%") := hdouble none (text "%Y%")
  obtain ⟨first, second, hfirst, hsecond, hboth⟩ := happend noon (text "%d%%") (text "Y%%%H") heven
  have hvalue : formatDate (some noon) (text "%d%%" ++ text "Y%%%H") = .ok (text "29%Y%12") := by
    decide +kernel
  have hwritten := Except.ok.inj (hboth.symm.trans hvalue)
  exact ⟨heven, ⟨first, second, hfirst, hsecond, hboth, hwritten⟩, by decide +kernel, hnone⟩

end NamePattern
