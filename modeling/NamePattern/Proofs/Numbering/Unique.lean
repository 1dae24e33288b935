import NamePattern.Proofs.Numbering.Format
import NamePattern.Proofs.Numbering.Sole

/-!
Numbers of a scope are distinct. A counter goes on in one direction, so it gives no number twice, and numbers
that are padded alike are written differently. Of two items of a scope the later one counts the earlier one
among those before it; so they get different numbers, however the scopes are interleaved.
-/

namespace NamePattern

theorem NumberUse.step_ne_zero (number : NumberUse) (total : Nat) :
    (number.counter total).step ≠ 0 := by
  have hstep : (number.counter total).step = if number.options.descending then -1 else 1 := rfl
  rw [hstep]
  split <;> decide

/-- A counter gives no number twice. -/
theorem NumberUse.valueAt_inj {number : NumberUse} {total a b : Nat}
    (h : number.valueAt total a = number.valueAt total b) : a = b := by
  have hsteps : (a : Int) * (number.counter total).step = b * (number.counter total).step :=
    Int.add_left_cancel h
  exact Int.ofNat.inj (Int.eq_of_mul_eq_mul_right (number.step_ne_zero total) hsteps)

theorem SoleNumber.textAt_inj {sole : SoleNumber} {total a b : Nat}
    (h : sole.textAt total a = sole.textAt total b) : a = b := by
  rw [textAt, textAt, List.append_left_inj, List.append_right_inj] at h
  exact NumberUse.valueAt_inj (Number.format_inj h)

/-- An item is counted before the later items of its scope. -/
theorem NumberUse.countIn_take_lt (number : NumberUse) {items : List Item} {i j : Nat} (hij : i < j)
    (hi : i < items.length) :
    number.countIn (items.take i) (number.path items[i])
      < number.countIn (items.take j) (number.path items[i]) := by
  have hprefix : items.take (i + 1) <+: items.take j := List.take_prefix_take_left hij
  calc number.countIn (items.take i) (number.path items[i])
      < number.countIn (items.take (i + 1)) (number.path items[i]) := by
        rw [← List.take_append_getElem hi, countIn_concat, if_pos rfl]
        exact Nat.lt_succ_self _
    _ ≤ number.countIn (items.take j) (number.path items[i]) := hprefix.sublist.countP_le

/-- The texts of a pattern with one number are different for any two items that share a scope: items with
the same path or, if the number goes on across groups, any two items. -/
theorem items_of_a_scope_get_different_texts {pattern : Pattern} {sole : SoleNumber}
    (hsole : pattern.soleNumber? = some sole) (items : List Item) (options : RenderOptions)
    (now : Option Instant) :
    ∃ texts, pattern.render .builtin items options now = .ok texts ∧
      texts.length = items.length ∧
      ∀ i j (hi : i < items.length) (hj : j < items.length), i ≠ j →
        (sole.number.options.acrossGroups = true ∨ items[i].path = items[j].path) →
        texts[i]? ≠ texts[j]? := by
  refine ⟨_, Pattern.render_of_soleNumber hsole items options now, List.length_mapIdx, ?_⟩
  intro i j hi hj hne hshare htexts
  have hpath : sole.number.path items[i] = sole.number.path items[j] := by
    rw [NumberUse.path, NumberUse.path, scopePath, scopePath]
    obtain hacross | hsame := hshare
    · rw [hacross]
      rfl
    · rw [hsame]
  simp only [List.getElem?_mapIdx, List.getElem?_eq_getElem hi, List.getElem?_eq_getElem hj,
    Option.map_some, Option.some.injEq, hpath] at htexts
  have hcount := SoleNumber.textAt_inj htexts
  obtain hlt | hlt := Nat.lt_or_gt_of_ne hne
  · have hbefore := sole.number.countIn_take_lt hlt hi
    rw [hpath] at hbefore
    omega
  · have hbefore := sole.number.countIn_take_lt hlt hj
    omega

/-- A counter that goes below zero pads in front of the sign, and the last two items of its group still
differ. Numbers that go on across groups differ between the groups. -/
theorem numbers_below_zero_are_distinct :
    let a := Item.within [text "a"]
    let b := Item.within [text "b"]
    let below := Pattern.read .builtin (text "f[1, %d3]")
    let across := Pattern.read .builtin (text "[9, %n].png")
    (∃ texts, below.render .builtin [a, b, a, a, a] {} none = .ok texts ∧
      texts = [text "f001", text "f001", text "f000", text "f0-1", text "f0-2"] ∧
      texts[3]? ≠ texts[4]?) ∧
    ∃ texts, across.render .builtin [a, b] {} none = .ok texts ∧ texts[0]? ≠ texts[1]? := by
  intro a b below across
  have hbelow : below.soleNumber? = some ⟨text "f", ⟨text "1", ⟨false, true, some 3⟩⟩, []⟩ := by
    decide +kernel
  have hacross : across.soleNumber?
      = some ⟨[], ⟨text "9", ⟨true, false, none⟩⟩, text ".png"⟩ := by
    decide +kernel
  obtain ⟨names, hnames, -, hapart⟩ :=
    items_of_a_scope_get_different_texts hbelow [a, b, a, a, a] {} none
  obtain ⟨others, hothers, -, hboth⟩ :=
    items_of_a_scope_get_different_texts hacross [a, b] {} none
  have hrender : below.render .builtin [a, b, a, a, a] {} none
      = .ok [text "f001", text "f001", text "f000", text "f0-1", text "f0-2"] := by
    decide +kernel
  refine ⟨⟨names, hnames, Except.ok.inj (hnames.symm.trans hrender), ?_⟩, others, hothers, ?_⟩
  · exact hapart 3 4 (by decide) (by decide) (by decide) (.inr rfl)
  · exact hboth 0 1 (by decide) (by decide) (by decide) (.inl rfl)

end NamePattern
