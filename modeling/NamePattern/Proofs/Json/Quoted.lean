import NamePattern.Json.Token

/-!
Quoted texts read back. The scanner takes the quoted form of a unit, an escape or the unit itself, for
that unit, and the end of the quotes for the end of the text. What is quoted and where the quotes end
can therefore be told from the text alone, whatever follows them.
-/

namespace NamePattern.Json

section
variable (found : Text) (before : Nat)

theorem scanString_end (rest : Text) :
    scanString found before (unit '"' :: rest)
      = .ok (before + 1, .scalar (.string found.reverse)) := by
  rw [scanString.eq_def]
  simp only [if_true]

theorem scanString_plain {u : CodeUnit} (hq : u ≠ unit '"') (hs : u ≠ unit '\\') (hc : ¬ u < 0x20)
    (rest : Text) :
    scanString found before (u :: rest) = scanString (u :: found) (before + 1) rest := by
  rw [scanString.eq_def found before (u :: rest)]
  simp only [if_neg hq, if_neg hc, if_pos hs]

theorem scanString_escape {v spelled : CodeUnit} (hu : v ≠ unit 'u')
    (hv : unescape? v = some spelled) (rest : Text) :
    scanString found before (unit '\\' :: v :: rest)
      = scanString (spelled :: found) (before + 2) rest := by
  have hq : unit '\\' ≠ unit '"' := by decide
  have hc : ¬ unit '\\' < 0x20 := by decide
  rw [scanString, if_neg hq, if_neg hc, if_neg (by simp)]
  simp only [if_neg hu, hv]

theorem hexDigitValue_hexDigit : ∀ n < 16, hexDigitValue? (hexDigit n) = some n := by decide

/-- Four digits spell the unit that they were made of. -/
theorem scanString_unicode (u : CodeUnit) (rest : Text) :
    scanString found before (escapeUnit u ++ rest)
      = scanString (u :: found) (before + 6) rest := by
  have hu := UInt16.toNat_lt u
  have h1 := hexDigitValue_hexDigit (u.toNat / 0x1000) (by omega)
  have h2 := hexDigitValue_hexDigit (u.toNat / 0x100 % 0x10) (by omega)
  have h3 := hexDigitValue_hexDigit (u.toNat / 0x10 % 0x10) (by omega)
  have h4 := hexDigitValue_hexDigit (u.toNat % 0x10) (by omega)
  have hvalues : ∀ more, hexValues (hexDigit (u.toNat / 0x1000) :: hexDigit (u.toNat / 0x100 % 0x10)
      :: hexDigit (u.toNat / 0x10 % 0x10) :: hexDigit (u.toNat % 0x10) :: more)
      = [u.toNat / 0x1000, u.toNat / 0x100 % 0x10, u.toNat / 0x10 % 0x10, u.toNat % 0x10] := by
    intro more
    simp [hexValues, h1, h2, h3, h4]
  have hspelled : 16 * (16 * (16 * (16 * 0 + u.toNat / 0x1000) + u.toNat / 0x100 % 0x10)
      + u.toNat / 0x10 % 0x10) + u.toNat % 0x10 = u.toNat := by omega
  have hq : unit '\\' ≠ unit '"' := by decide
  have hc : ¬ unit '\\' < 0x20 := by decide
  simp only [escapeUnit, List.cons_append, List.nil_append]
  rw [scanString, if_neg hq, if_neg hc, if_neg (by simp)]
  simp only [hvalues, if_true, List.length_cons, List.length_nil, List.foldl_cons, List.foldl_nil,
    hspelled, UInt16.ofNat_toNat, List.drop_succ_cons, List.drop_zero]
  rfl

/-- The quoted form of a unit is scanned as that unit. -/
theorem scanString_quoteUnit (u : CodeUnit) (rest : Text) :
    scanString found before (quoteUnit u ++ rest)
      = scanString (u :: found) (before + (quoteUnit u).length) rest := by
  rw [quoteUnit]
  split
  · next h =>
    simp only [Bool.or_eq_true, decide_eq_true_eq] at h
    have hv : unescape? u = some u := by
      rcases h with rfl | rfl <;> decide
    have hu : u ≠ unit 'u' := by
      rcases h with rfl | rfl <;> decide
    exact scanString_escape found before hu hv rest
  split
  · next h =>
    subst h
    exact scanString_escape found before (v := unit 'b') (by decide) (by decide) rest
  split
  · next h =>
    subst h
    exact scanString_escape found before (v := unit 't') (by decide) (by decide) rest
  split
  · next h =>
    subst h
    exact scanString_escape found before (v := unit 'n') (by decide) (by decide) rest
  split
  · next h =>
    subst h
    exact scanString_escape found before (v := unit 'f') (by decide) (by decide) rest
  split
  · next h =>
    subst h
    exact scanString_escape found before (v := unit 'r') (by decide) (by decide) rest
  split
  · exact scanString_unicode found before u rest
  · next hmarks _ _ _ _ _ hplain =>
    simp only [Bool.or_eq_true, decide_eq_true_eq, not_or] at hmarks hplain
    exact scanString_plain found before hmarks.1 hmarks.2 hplain.1.1 rest

/-- Half of a surrogate pair has no meaning of its own within quotes. -/
theorem scanString_surrogate {u : CodeUnit} (hu : 0xD800 ≤ u) (rest : Text) :
    scanString found before (u :: rest) = scanString (u :: found) (before + 1) rest := by
  have hlt : ∀ v : CodeUnit, v < 0xD800 → u ≠ v := by
    rintro v hv rfl
    exact absurd (UInt16.lt_of_lt_of_le hv hu) (UInt16.lt_irrefl u)
  refine scanString_plain found before (hlt _ (by decide)) (hlt _ (by decide)) ?_ rest
  intro h
  exact hlt u (UInt16.lt_trans h (by decide)) rfl

theorem scanString_quotedUnits (t rest : Text) :
    scanString found before (quotedUnits t ++ rest)
      = scanString (t.reverse ++ found) (before + (quotedUnits t).length) rest := by
  fun_induction quotedUnits t generalizing found before with
  | case1 => rfl
  | case2 u => exact scanString_quoteUnit found before u rest
  | case3 u v more hpair ih =>
    simp only [Bool.and_eq_true, isLead, isTrail, decide_eq_true_eq] at hpair
    obtain ⟨⟨hlead, -⟩, htrail, -⟩ := hpair
    have htrail' : 0xD800 ≤ v := UInt16.le_trans (by decide) htrail
    rw [List.cons_append, List.cons_append, scanString_surrogate found before hlead,
      scanString_surrogate _ _ htrail', ih]
    simp [Nat.add_left_comm, Nat.add_comm]
  | case4 u v more _ ih =>
    rw [List.append_assoc, scanString_quoteUnit, ih, List.length_append, Nat.add_assoc]
    simp

/-- A quoted text is scanned as that text, and the scan ends with its quotes. -/
theorem scanString_quoted (t rest : Text) :
    scanString [] 0 (quotedUnits t ++ unit '"' :: rest)
      = .ok ((quotedUnits t).length + 1, .scalar (.string t)) := by
  rw [scanString_quotedUnits, scanString_end]
  simp

end

/-- Where two texts begin with quoted ones and are equal, these are equal and what follows them. -/
theorem quoted_append_inj {s t x y : Text} (h : quoted s ++ x = quoted t ++ y) : s = t ∧ x = y := by
  simp only [quoted, List.cons_append, List.append_assoc, List.nil_append, List.cons.injEq,
    true_and] at h
  have hscan := scanString_quoted s x
  rw [h, scanString_quoted t y] at hscan
  simp only [Except.ok.injEq, Prod.mk.injEq, Token.scalar.injEq, Json.string.injEq] at hscan
  obtain ⟨-, rfl⟩ := hscan
  exact ⟨rfl, (List.cons.inj (List.append_cancel_left h)).2⟩

end NamePattern.Json
