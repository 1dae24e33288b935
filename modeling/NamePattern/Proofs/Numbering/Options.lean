import NamePattern.Field.Number

/-!
What the arguments of a number field say, told from all of them at once: whether one goes on across
groups, whether one counts down, and the last padding that is given. Reading them one by one gives the
same.
-/

namespace NamePattern.Number

/-- The padding that an argument gives: the digits after the mark that counts down, if any. -/
def paddingOf? (arg : Text) : Option Nat :=
  let digits := arg.drop descendingArgument.length
  if descendingArgument.isPrefixOf arg && !digits.isEmpty then some (Text.toNat digits) else none

/-- Whether some argument counts down. -/
def countsDown (args : List Text) : Bool := args.any descendingArgument.isPrefixOf

/-- The last padding that some arguments give. -/
def lastPadding? (args : List Text) : Option Nat := (args.filterMap paddingOf?).getLast?

theorem lastPadding_cons (arg : Text) (rest : List Text) :
    lastPadding? (arg :: rest) = (lastPadding? rest).or (paddingOf? arg) := by
  cases h : paddingOf? arg with
  | none => rw [lastPadding?, List.filterMap_cons_none h, Option.or_none, lastPadding?]
  | some padding =>
    rw [lastPadding?, List.filterMap_cons_some h, List.getLast?_cons, lastPadding?]
    cases (rest.filterMap paddingOf?).getLast? <;> rfl

theorem descendingDigits_eq_some {arg digits : Text} (h : descendingDigits? arg = some digits) :
    descendingArgument.isPrefixOf arg = true ∧ arg.drop descendingArgument.length = digits := by
  rw [descendingDigits?] at h
  split at h
  · next hstarts =>
    refine ⟨hstarts, ?_⟩
    dsimp only at h
    split at h
    · exact Option.some.inj h
    · cases h
  · cases h

/-- The options after one more argument: each of the three is what the argument says of it, or as
before. -/
theorem add_eq {options next : Options} {arg : Text} (harg : isOption arg = true)
    (h : options.add arg = .ok next) :
    next = ⟨options.acrossGroups || acrossGroupsArgument == arg,
      options.descending || descendingArgument.isPrefixOf arg,
      (paddingOf? arg).or options.padding⟩ := by
  rw [Options.add] at h
  cases hdigits : descendingDigits? arg with
  | none =>
    obtain rfl : arg = acrossGroupsArgument := by
      simpa [isOption, hdigits] using harg
    have hstarts : descendingArgument.isPrefixOf acrossGroupsArgument = false := by decide
    rw [hdigits] at h
    simp only [Except.ok.injEq] at h
    subst h
    simp [paddingOf?, hstarts]
  | some digits =>
    obtain ⟨hstarts, hdrop⟩ := descendingDigits_eq_some hdigits
    have hacross : (acrossGroupsArgument == arg) = false := by
      rw [beq_eq_false_iff_ne]
      rintro rfl
      exact absurd hstarts (by decide)
    rw [hdigits] at h
    cases digits with
    | nil =>
      simp only [Except.ok.injEq] at h
      subst h
      simp [paddingOf?, hstarts, hdrop, hacross]
    | cons u rest =>
      simp only at h
      split at h
      · cases h
      · simp only [Except.ok.injEq] at h
        subst h
        simp [paddingOf?, hstarts, hdrop, hacross]

theorem foldlM_add_eq {args : List Text} (hargs : ∀ arg ∈ args, isOption arg = true)
    {options next : Options} (h : args.foldlM Options.add options = .ok next) :
    next = ⟨options.acrossGroups || args.contains acrossGroupsArgument,
      options.descending || countsDown args, (lastPadding? args).or options.padding⟩ := by
  induction args generalizing options with
  | nil =>
    cases h
    simp [countsDown, lastPadding?]
  | cons arg rest ih =>
    obtain ⟨harg, hrest⟩ := List.forall_mem_cons.1 hargs
    rw [List.foldlM_cons] at h
    cases hadd : options.add arg with
    | error fault => rw [hadd] at h; cases h
    | ok middle =>
      rw [hadd] at h
      rw [ih hrest h, add_eq harg hadd, lastPadding_cons]
      simp only [List.contains_cons, countsDown, List.any_cons, Bool.or_assoc, Option.or_assoc]

/-- The options that arguments are read as. -/
theorem readOptions_eq {args : List Text} {options : Options} (h : readOptions args = .ok options) :
    options = ⟨args.contains acrossGroupsArgument, countsDown args, lastPadding? args⟩ := by
  rw [readOptions] at h
  split at h
  · cases h
  · next hfind =>
    have hargs : ∀ arg ∈ args, isOption arg = true := by
      intro arg harg
      simpa using List.find?_eq_none.1 hfind arg harg
    rw [foldlM_add_eq hargs h]
    simp

/-! ### Digits -/

theorem digitValue_eq_zero {u : CodeUnit} (hu : isDigit u = true) : digitValue u = 0 ↔ u = digit 0 := by
  simp only [isDigit, Bool.and_eq_true, decide_eq_true_eq, UInt16.le_iff_toNat_le] at hu
  rw [digitValue, ← UInt16.toNat_inj]
  have hlow : (0x30 : CodeUnit).toNat = 0x30 := rfl
  have hzero : (digit 0).toNat = 0x30 := rfl
  omega

theorem foldl_digits_eq_zero {digits : Text} (hdigits : ∀ u ∈ digits, isDigit u = true) (n : Nat) :
    digits.foldl (fun n u => 10 * n + digitValue u) n = 0 ↔ n = 0 ∧ ∀ u ∈ digits, u = digit 0 := by
  induction digits generalizing n with
  | nil => simp
  | cons u rest ih =>
    obtain ⟨hu, hrest⟩ := List.forall_mem_cons.1 hdigits
    have hvalue := digitValue_eq_zero hu
    rw [List.foldl_cons, ih hrest, List.forall_mem_cons, ← hvalue, ← and_assoc]
    refine and_congr_left fun _ => ?_
    omega

/-- Digits stand for zero just when each of them is a zero. -/
theorem toNat_eq_zero {digits : Text} (h : digits.isNumeral = true) :
    digits.toNat = 0 ↔ digits.all (· == digit 0) = true := by
  simp only [Text.isNumeral, Bool.and_eq_true] at h
  rw [Text.toNat, foldl_digits_eq_zero (List.all_eq_true.1 h.2)]
  simp

end NamePattern.Number
