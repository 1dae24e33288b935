import NamePattern.Field.Number
import NamePattern.Proofs.Text.Cut

/-!
Numbers as they are written. The digits of a number read back as the number, whatever zeros lead them. The
sign of a number below zero counts towards its padding, so zeros may stand in front of the sign as well, but
only one sign is there to cut at. So a number can be told from its text, and numbers that are padded alike
are written differently.
-/

namespace NamePattern

theorem isDigit_digit {n : Nat} (h : n < 10) : isDigit (digit n) = true := by
  have hall : ∀ n < 10, isDigit (digit n) = true := by decide
  exact hall n h

theorem digitValue_digit {n : Nat} (h : n < 10) : digitValue (digit n) = n := by
  have hall : ∀ n < 10, digitValue (digit n) = n := by decide
  exact hall n h

theorem sign_notMem {digits : Text} (h : digits.all isDigit = true) : unit '-' ∉ digits := by
  intro hsign
  exact absurd (List.all_eq_true.1 h _ hsign) (by decide)

namespace Text

theorem toNat_concat (digits : Text) (u : CodeUnit) :
    toNat (digits ++ [u]) = 10 * toNat digits + digitValue u := by
  rw [toNat, List.foldl_append]
  rfl

theorem toNat_zeros_append (count : Nat) (digits : Text) :
    toNat (List.replicate count (digit 0) ++ digits) = toNat digits := by
  induction count with
  | zero => rfl
  | succ count ih =>
    rw [← ih, List.replicate_succ]
    rfl

theorem toNat_ofNat (n : Nat) : toNat (ofNat n) = n := by
  fun_induction ofNat n with
  | case1 n hlt => rw [toNat, List.foldl_cons, List.foldl_nil, digitValue_digit hlt, Nat.zero_add]
  | case2 n hlt ih =>
    rw [toNat_concat, ih, digitValue_digit (Nat.mod_lt n (by decide)), Nat.div_add_mod]

theorem all_ofNat (n : Nat) : (ofNat n).all isDigit = true := by
  fun_induction ofNat n with
  | case1 n hlt => simp [isDigit_digit hlt]
  | case2 n hlt ih => simp [ih, isDigit_digit (Nat.mod_lt n (by decide))]

theorem all_zeros (count : Nat) : (List.replicate count (digit 0)).all isDigit = true := by
  rw [List.all_eq_true]
  intro u hu
  rw [List.eq_of_mem_replicate hu]
  decide

theorem isNumeral_iff {t : Text} : t.isNumeral = true ↔ t ≠ [] ∧ ∀ u ∈ t, isDigit u = true := by
  simp [isNumeral]

theorem isNumeral_ofNat (n : Nat) : (ofNat n).isNumeral = true := by
  have hne : ofNat n ≠ [] := by
    rw [ofNat]
    split <;> simp
  exact isNumeral_iff.2 ⟨hne, List.all_eq_true.1 (all_ofNat n)⟩

theorem isNumeral_zeros_append {t : Text} (h : t.isNumeral = true) (count : Nat) :
    isNumeral (List.replicate count (digit 0) ++ t) = true := by
  rw [isNumeral_iff] at h ⊢
  refine ⟨by simp [h.1], fun u hu => ?_⟩
  rcases List.mem_append.1 hu with hu | hu
  · exact List.all_eq_true.1 (all_zeros count) u hu
  · exact h.2 u hu

end Text

namespace Number

/-- The number that a text stands for, with zeros wherever padding puts them. -/
def valueOf (t : Text) : Int :=
  match t.cutAt (unit '-') with
  | (digits, none) => digits.toNat
  | (_, some digits) => -digits.toNat

theorem valueOf_format (value : Int) (padding : Nat) : valueOf (format value padding) = value := by
  rw [format, Text.padStart]
  cases value with
  | ofNat n =>
    have hdigits : (List.replicate (padding - (Text.ofNat n).length) (digit 0)
        ++ Text.ofNat n).all isDigit = true := by
      rw [List.all_append, Text.all_zeros, Text.all_ofNat]
      rfl
    rw [valueOf, Text.ofInt, cutAt_of_notMem (sign_notMem hdigits)]
    dsimp only
    rw [Text.toNat_zeros_append, Text.toNat_ofNat]
    rfl
  | negSucc n =>
    rw [valueOf, Text.ofInt, cutAt_append (sign_notMem (Text.all_zeros _))]
    dsimp only
    rw [Text.toNat_ofNat]
    rfl

/-- Numbers that are padded alike are written differently, also where zeros stand in front of a sign. -/
theorem format_inj {a b : Int} {padding : Nat} (h : format a padding = format b padding) : a = b := by
  rw [← valueOf_format a padding, h, valueOf_format]

example : format (-7) 4 = text "00-7" ∧ valueOf (text "00-7") = -7 := by decide +kernel

end Number

end NamePattern
