import NamePattern.Proofs.Text.Cut
import NamePattern.Replacement

/-!
The references of a replacement template, as ECMAScript has them: from the left, each reference is
replaced by the text that it stands for, and the reading goes on behind it. Two digits are one reference
unless their number is past the last group; then the first digit alone is. An angle bracket begins a name
only if the match has named groups and a closing one follows. Otherwise the dollar sign and the bracket
stand for themselves, and what follows them is read like any other part of the template.
-/

namespace NamePattern

/-- A stretch of a template that is read at once, and the text that it stands for. -/
structure Reference where
  written : Text
  meaning : Text
  deriving DecidableEq

/-- The digits that make up the reference at the start of a text. -/
def Match.referenceDigits (m : Match) (t : Text) : Text :=
  let two := t.take 2
  if two.length = 2 ∧ two.all isDigit = true ∧ Text.toNat two ≤ m.captures.length then two else t.take 1

/-- The text that a number stands for, if it is that of a group. A group that took no part has none. -/
def Match.group? (m : Match) (number : Nat) : Option Text :=
  if 1 ≤ number ∧ number ≤ m.captures.length then some ((m.captures[number - 1]?).join.getD [])
  else none

/-- What is read at the start of a template. -/
def Match.reference (m : Match) (t : Text) : Reference :=
  match t with
  | [] => ⟨[], []⟩
  | [u] => ⟨[u], [u]⟩
  | u :: c :: rest =>
    if u ≠ unit '$' then ⟨[u], [u]⟩
    else if c = unit '$' then ⟨[u, c], [u]⟩
    else if c = 0x60 then ⟨[u, c], m.input.take m.index⟩
    else if c = unit '&' then ⟨[u, c], m.content⟩
    else if c = unit '\'' then ⟨[u, c], m.input.drop (min m.stop m.input.length)⟩
    else if isDigit c then
      let digits := m.referenceDigits (c :: rest)
      ⟨u :: digits, (m.group? (Text.toNat digits)).getD (u :: digits)⟩
    else if c = unit '<' then
      match Text.cutAt (unit '>') rest, m.groups with
      | (name, some _), some groups =>
        ⟨u :: c :: (name ++ [unit '>']), Match.named groups name⟩
      | _, _ => ⟨[u, c], [u, c]⟩
    else ⟨[u], [u]⟩

namespace Match
variable (m : Match)

theorem length_reference_pos (u : CodeUnit) (rest : Text) :
    0 < (m.reference (u :: rest)).written.length := by
  cases rest with
  | nil => exact Nat.one_pos
  | cons c rest =>
    rw [reference]
    repeat' split
    all_goals simp

/-- A template with each of its references replaced by what it stands for. -/
def substitution (t : Text) : Text :=
  match t with
  | [] => []
  | u :: rest =>
    (m.reference (u :: rest)).meaning
      ++ substitution ((u :: rest).drop (m.reference (u :: rest)).written.length)
termination_by t.length
decreasing_by
  have := m.length_reference_pos u rest
  simp only [List.length_drop, List.length_cons]
  omega

theorem substitution_nil : m.substitution [] = [] := by rw [substitution]

variable {m}

theorem substitution_of_reference {written : Text} (hne : written ≠ []) (meaning : Text) {rest : Text}
    (h : m.reference (written ++ rest) = ⟨written, meaning⟩) :
    m.substitution (written ++ rest) = meaning ++ m.substitution rest := by
  obtain ⟨u, more, rfl⟩ := List.exists_cons_of_ne_nil hne
  rw [List.cons_append, substitution, ← List.cons_append, h, List.drop_left]

/-! ### What is read in each case -/

section
variable (t : Text)

theorem substitution_other {u : CodeUnit} (hu : u ≠ unit '$') :
    m.substitution (u :: t) = u :: m.substitution t := by
  have hread : m.reference ([u] ++ t) = ⟨[u], [u]⟩ := by
    cases t with
    | nil => rfl
    | cons c rest => exact if_pos hu
  exact substitution_of_reference (List.cons_ne_nil u []) [u] hread

/-- A dollar sign and another unit are a reference of two units. -/
theorem substitution_pair {c : CodeUnit} (meaning : Text)
    (h : m.reference (unit '$' :: c :: t) = ⟨[unit '$', c], meaning⟩) :
    m.substitution (unit '$' :: c :: t) = meaning ++ m.substitution t :=
  substitution_of_reference (List.cons_ne_nil (unit '$') [c]) meaning h

theorem substitution_dollar :
    m.substitution (unit '$' :: unit '$' :: t) = unit '$' :: m.substitution t :=
  substitution_pair t [unit '$'] rfl

theorem substitution_before :
    m.substitution (unit '$' :: 0x60 :: t) = m.input.take m.index ++ m.substitution t :=
  substitution_pair t _ rfl

theorem substitution_content :
    m.substitution (unit '$' :: unit '&' :: t) = m.content ++ m.substitution t :=
  substitution_pair t _ rfl

theorem substitution_after :
    m.substitution (unit '$' :: unit '\'' :: t) = m.input.drop m.stop ++ m.substitution t := by
  have hmin : m.input.drop (min m.stop m.input.length) = m.input.drop m.stop := by
    rcases Nat.le_total m.stop m.input.length with hle | hge
    · rw [Nat.min_eq_left hle]
    · rw [Nat.min_eq_right hge, List.drop_length, List.drop_of_length_le hge]
  rw [← hmin]
  exact substitution_pair t _ rfl

end

/-! ### Numbers -/

theorem group_eq_captured (m : Match) (number : Nat) : m.group? number = m.captured? number := by
  rw [group?, captured?]
  by_cases hzero : number = 0
  · rw [if_pos hzero, if_neg (by omega)]
  rw [if_neg hzero]
  by_cases hlen : number ≤ m.captures.length
  · rw [if_pos ⟨by omega, hlen⟩, List.getElem?_eq_getElem (by omega)]
    rfl
  · rw [if_neg (by omega), List.getElem?_eq_none (by omega)]
    rfl

theorem digit_ne_dollar {u : CodeUnit} (h : isDigit u = true) : u ≠ unit '$' := by
  rintro rfl
  exact absurd h (by decide)

/-- The case of a dollar sign before a digit, with the digits that are read given. -/
theorem substitution_digits {c : CodeUnit} (hc : isDigit c = true) {t digits rest : Text}
    (hdigits : m.referenceDigits (c :: t) = digits) (ht : c :: t = digits ++ rest) :
    m.substitution (unit '$' :: c :: t)
      = (m.group? (Text.toNat digits)).getD (unit '$' :: digits) ++ m.substitution rest := by
  have hother : ∀ v : CodeUnit, isDigit v = false → c ≠ v := by
    rintro v hv rfl
    rw [hc] at hv
    cases hv
  have hread : m.reference (unit '$' :: c :: t)
      = ⟨unit '$' :: digits, (m.group? (Text.toNat digits)).getD (unit '$' :: digits)⟩ := by
    rw [reference, if_neg (not_not_intro rfl), if_neg (hother _ (by decide)),
      if_neg (hother _ (by decide)), if_neg (hother _ (by decide)), if_neg (hother _ (by decide)),
      if_pos hc, hdigits]
  rw [ht] at hread ⊢
  exact substitution_of_reference (List.cons_ne_nil (unit '$') digits) _ hread

theorem toNat_pair (c d : CodeUnit) :
    Text.toNat [c, d] = 10 * digitValue c + digitValue d := by
  simp [Text.toNat]

theorem toNat_single (c : CodeUnit) : Text.toNat [c] = digitValue c := by
  simp [Text.toNat]

/-- What is left of a template that begins with a dollar sign and a digit, where `read?` gives the text
of a group and what is left behind its number. -/
def afterNumber (m : Match) (c : CodeUnit) (t : Text) (read? : Option (Text × Text)) : Text :=
  match read? with
  | some (captured, rest) => captured ++ m.substitution rest
  | none => unit '$' :: m.substitution (c :: t)

/-- A number of one digit. -/
theorem substitution_one {c : CodeUnit} (hc : isDigit c = true) {t : Text}
    (hdigits : m.referenceDigits (c :: t) = [c]) :
    m.substitution (unit '$' :: c :: t)
      = m.afterNumber c t ((m.captured? (digitValue c)).map fun captured => (captured, t)) := by
  rw [substitution_digits hc hdigits rfl, group_eq_captured, toNat_single]
  cases m.captured? (digitValue c) with
  | none =>
    rw [Option.map_none, afterNumber, substitution_other t (digit_ne_dollar hc)]
    rfl
  | some captured => rfl

/-- The number behind a dollar sign is read as the search for a group reads it. -/
theorem substitution_digit {c : CodeUnit} (hc : isDigit c = true) (t : Text) :
    m.substitution (unit '$' :: c :: t) = m.afterNumber c t (m.numbered? c t) := by
  cases t with
  | nil => exact substitution_one hc rfl
  | cons d more =>
    have hdigits : m.referenceDigits (c :: d :: more)
        = if isDigit d = true ∧ 10 * digitValue c + digitValue d ≤ m.captures.length then [c, d]
          else [c] := by
      simp [referenceDigits, hc, toNat_pair]
    rw [numbered?]
    by_cases hd : isDigit d = true
    · rw [if_pos hd]
      by_cases hlen : 10 * digitValue c + digitValue d ≤ m.captures.length
      · rw [if_pos ⟨hd, hlen⟩] at hdigits
        rw [substitution_digits hc hdigits rfl, group_eq_captured, toNat_pair]
        cases hpair : m.captured? (10 * digitValue c + digitValue d) with
        | some captured => rfl
        | none =>
          -- both digits are zero, so the first one alone is no number of a group either
          have hzero : digitValue c = 0 := by
            rw [← group_eq_captured, group?] at hpair
            split at hpair
            · cases hpair
            · omega
          have hone : m.captured? (digitValue c) = none := by
            rw [hzero]
            rfl
          rw [hone, Option.map_none, Option.map_none, Option.or_none, afterNumber,
            substitution_other _ (digit_ne_dollar hc), substitution_other _ (digit_ne_dollar hd)]
          rfl
      · rw [if_neg (fun h => hlen h.2)] at hdigits
        have hnone : m.captured? (10 * digitValue c + digitValue d) = none := by
          rw [← group_eq_captured, group?, if_neg (fun h => hlen h.2)]
        rw [hnone, Option.map_none, Option.none_or]
        exact substitution_one hc hdigits
    · rw [if_neg (fun h => hd h.1)] at hdigits
      rw [if_neg hd]
      exact substitution_one hc hdigits

/-! ### Names, and what is no reference -/

theorem reference_angle (t : Text) :
    m.reference (unit '$' :: unit '<' :: t)
      = match t.cutAt (unit '>'), m.groups with
        | (name, some _), some groups =>
          ⟨unit '$' :: unit '<' :: (name ++ [unit '>']), Match.named groups name⟩
        | _, _ => ⟨[unit '$', unit '<'], [unit '$', unit '<']⟩ := rfl

theorem substitution_named {groups : List (Text × Option Text)} (hgroups : m.groups = some groups)
    {t name rest : Text} (hcut : t.cutAt (unit '>') = (name, some rest)) :
    m.substitution (unit '$' :: unit '<' :: t)
      = Match.named groups name ++ m.substitution rest := by
  have hread := m.reference_angle t
  rw [hcut, hgroups] at hread
  have ht : unit '$' :: unit '<' :: t
      = (unit '$' :: unit '<' :: (name ++ [unit '>'])) ++ rest := by
    rw [(eq_of_cutAt hcut).1]
    simp
  rw [ht] at hread ⊢
  exact substitution_of_reference (List.cons_ne_nil _ _) _ hread

section
variable (t : Text)

/-- An angle bracket begins no name without named groups, nor if nothing closes it. -/
theorem substitution_angle (h : m.groups = none ∨ (t.cutAt (unit '>')).2 = none) :
    m.substitution (unit '$' :: unit '<' :: t) = unit '$' :: unit '<' :: m.substitution t := by
  refine substitution_pair t [unit '$', unit '<'] ?_
  rw [reference_angle]
  rcases h with hgroups | hcut
  · rw [hgroups]
    rcases t.cutAt (unit '>') with ⟨name, _ | rest⟩ <;> rfl
  · rcases hname : t.cutAt (unit '>') with ⟨name, rest⟩
    rw [hname] at hcut
    rw [show rest = none from hcut]

/-- A dollar sign before any other unit stands for itself. -/
theorem substitution_plain {c : CodeUnit} (hdollar : c ≠ unit '$') (hbefore : c ≠ 0x60)
    (hcontent : c ≠ unit '&') (hafter : c ≠ unit '\'') (hdigit : isDigit c = false)
    (hangle : c ≠ unit '<') :
    m.substitution (unit '$' :: c :: t) = unit '$' :: m.substitution (c :: t) := by
  have hread : m.reference ([unit '$'] ++ c :: t) = ⟨[unit '$'], [unit '$']⟩ := by
    rw [List.singleton_append, reference, if_neg (not_not_intro rfl), if_neg hdollar,
      if_neg hbefore, if_neg hcontent, if_neg hafter, if_neg (by simp [hdigit]), if_neg hangle]
  exact substitution_of_reference (List.cons_ne_nil _ _) _ hread

end

theorem substitution_single (u : CodeUnit) : m.substitution [u] = [u] := by
  have hread : m.reference ([u] ++ []) = ⟨[u], [u]⟩ := rfl
  have hsingle := substitution_of_reference (List.cons_ne_nil u []) _ hread
  rwa [List.append_nil, substitution_nil, List.append_nil] at hsingle

/-! ### What is read and what is left -/

theorem referenceDigits_eq_take (m : Match) (t : Text) : ∃ n, m.referenceDigits t = t.take n := by
  rw [referenceDigits]
  split
  · exact ⟨2, rfl⟩
  · exact ⟨1, rfl⟩

/-- What is read at the start of a template is a prefix of it. -/
theorem reference_written_prefix (m : Match) (t : Text) : (m.reference t).written <+: t := by
  rcases t with _ | ⟨u, _ | ⟨c, rest⟩⟩
  · exact List.nil_prefix
  · exact List.prefix_refl [u]
  have htake : ∀ n, u :: (c :: rest).take n <+: u :: c :: rest := fun n =>
    List.cons_prefix_cons.2 ⟨rfl, List.take_prefix n _⟩
  rw [reference]
  repeat' split
  · exact htake 0
  · exact htake 1
  · exact htake 1
  · exact htake 1
  · exact htake 1
  · obtain ⟨n, hdigits⟩ := m.referenceDigits_eq_take (c :: rest)
    rw [hdigits]
    exact htake n
  · next name after groups hcut _ =>
    rw [(eq_of_cutAt hcut).1]
    exact ⟨after, by simp⟩
  · exact htake 1
  · exact htake 0

theorem reference_append (h : m.groups = none) {s : Text} (hs : s ≠ []) (t : Text) :
    m.reference (s ++ unit '>' :: t) = m.reference s := by
  rcases s with _ | ⟨u, _ | ⟨c, rest⟩⟩
  · exact absurd rfl hs
  · rw [List.singleton_append, reference, reference]
    by_cases hu : u = unit '$'
    · rw [if_neg (not_not_intro hu), if_neg (by decide), if_neg (by decide), if_neg (by decide),
        if_neg (by decide), if_neg (by decide), if_neg (by decide)]
    · rw [if_pos hu]
  · rw [List.cons_append, List.cons_append, reference, reference, h]
    have hdigits : m.referenceDigits (c :: (rest ++ unit '>' :: t))
        = m.referenceDigits (c :: rest) := by
      cases rest with
      | nil => simp [referenceDigits, show isDigit (unit '>') = false by decide]
      | cons d more => simp [referenceDigits]
    rw [hdigits]
    rcases Text.cutAt (unit '>') (rest ++ unit '>' :: t) with ⟨name, _ | after⟩ <;>
      rcases Text.cutAt (unit '>') rest with ⟨name', _ | after'⟩ <;> rfl

/-- No reference reaches beyond a closing angle bracket, if there are no named groups. -/
theorem substitution_append (h : m.groups = none) (s t : Text) :
    m.substitution (s ++ unit '>' :: t) = m.substitution s ++ unit '>' :: m.substitution t := by
  induction hn : s.length using Nat.strongRecOn generalizing s with
  | _ n ih =>
    subst hn
    cases s with
    | nil => rw [List.nil_append, substitution_other t (by decide), substitution_nil, List.nil_append]
    | cons u rest =>
      obtain ⟨after, hafter⟩ := m.reference_written_prefix (u :: rest)
      have hread := m.length_reference_pos u rest
      rcases hreference : m.reference (u :: rest) with ⟨written, meaning⟩
      rw [hreference] at hafter hread
      dsimp only at hafter hread
      have hne : written ≠ [] := List.ne_nil_of_length_pos hread
      have hlong := reference_append h (List.cons_ne_nil u rest) t
      rw [hreference] at hlong
      rw [← hafter] at hreference hlong ⊢
      rw [List.append_assoc] at hlong ⊢
      rw [substitution_of_reference hne meaning hlong, substitution_of_reference hne meaning hreference,
        List.append_assoc, ih after.length ?_ after rfl]
      rw [← hafter, List.length_append]
      omega

end Match

end NamePattern
