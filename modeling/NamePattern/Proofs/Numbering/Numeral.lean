import NamePattern.Proofs.Numbering.Format
import NamePattern.Proofs.Numbering.Law

/-!
Padded numerals. To pad a number to some digits is to write at least that many of them, behind the sign if
there is one (`Pads`). The number field fills up the printed text instead, in which the sign is a unit as
good as a digit, so a number below zero is padded to one digit less and its zeros stand in front of the
sign. What it writes is a padded numeral just if the number is not below zero or needs no zeros. Below zero
it comes by counting down past its first number.
-/

namespace NamePattern

open Evaluation (takesFrom)

/-- A text that writes a number in at least `padding` decimal digits, behind a sign if there is one. -/
inductive Pads (padding : Nat) (value : Int) : Text → Prop
  | unsigned {digits : Text} (hdigits : digits.isNumeral = true) (hpadding : padding ≤ digits.length)
    (hvalue : value = digits.toNat) : Pads padding value digits
  | signed {digits : Text} (hdigits : digits.isNumeral = true) (hpadding : padding ≤ digits.length)
    (hvalue : value = -digits.toNat) : Pads padding value (unit '-' :: digits)

/-- Where padding the printed text comes to padding the digits: there is no sign to be counted among
them, or there is nothing to pad. -/
def PadsDigits (padding : Nat) (value : Int) : Prop :=
  0 ≤ value ∨ padding ≤ (Text.ofNat value.natAbs).length

instance (padding : Nat) (value : Int) : Decidable (PadsDigits padding value) :=
  inferInstanceAs (Decidable (_ ∨ _))

namespace Text

theorem isNumeral_zeros_append_ofNat (count n : Nat) :
    isNumeral (List.replicate count (digit 0) ++ ofNat n) = true :=
  isNumeral_zeros_append (isNumeral_ofNat n) count

theorem le_length_padStart (width : Nat) (fill : CodeUnit) (t : Text) :
    width ≤ (padStart width fill t).length := by
  rw [padStart, List.length_append, List.length_replicate]
  omega

end Text

namespace Number

theorem pads_format_ofNat (n padding : Nat) : Pads padding n (format n padding) := by
  refine .unsigned (Text.isNumeral_zeros_append_ofNat _ n) (Text.le_length_padStart _ _ _) ?_
  rw [format, Text.padStart, Text.toNat_zeros_append]
  exact congrArg Nat.cast (Text.toNat_ofNat n).symm

/-- Zeros in front of a sign are no digits behind it. -/
theorem pads_zeros_append_sign_iff (count n padding : Nat) :
    Pads padding (.negSucc n) (List.replicate count (digit 0) ++ unit '-' :: Text.ofNat (n + 1))
      ↔ count = 0 ∧ padding ≤ (Text.ofNat (n + 1)).length := by
  constructor
  · generalize htext : List.replicate count (digit 0) ++ unit '-' :: Text.ofNat (n + 1) = t
    rintro (⟨hdigits, -, hvalue⟩ | ⟨hdigits, hpadding, -⟩)
    · omega
    · cases count with
      | zero => exact ⟨rfl, List.tail_eq_of_cons_eq htext ▸ hpadding⟩
      | succ count => exact absurd (List.head_eq_of_cons_eq htext) (by decide)
  · rintro ⟨rfl, hpadding⟩
    refine .signed (Text.isNumeral_zeros_append_ofNat 0 (n + 1)) hpadding ?_
    rw [Text.toNat_ofNat]
    rfl

theorem pads_format_iff (value : Int) (padding : Nat) :
    Pads padding value (format value padding) ↔ PadsDigits padding value := by
  rw [PadsDigits]
  cases value with
  | ofNat n => exact iff_of_true (pads_format_ofNat n padding) (.inl (Int.natCast_nonneg n))
  | negSucc n =>
    rw [format, Text.padStart, Text.ofInt, pads_zeros_append_sign_iff, List.length_cons,
      Int.natAbs_negSucc, Nat.succ_eq_add_one]
    omega

end Number

/-- What the number field writes for a number. -/
structure FillsUp (padding : Nat) (value : Int) (t : Text) : Prop where
  valueOf_eq : Number.valueOf t = value
  le_length : padding ≤ t.length
  pads_iff : Pads padding value t ↔ PadsDigits padding value

namespace Number

theorem fillsUp_format (value : Int) (padding : Nat) :
    FillsUp padding value (format value padding) :=
  ⟨valueOf_format value padding, Text.le_length_padStart _ _ _, pads_format_iff value padding⟩

end Number

namespace Evaluation

theorem firstNumber_nonneg (items : List Item) (key : NumberKey) (e : Evaluation) :
    0 ≤ e.firstNumber items key := by
  rw [firstNumber]
  split <;> exact Int.natCast_nonneg _

theorem numberAt_neg_iff (items : List Item) (key : NumberKey) (e : Evaluation) (count : Nat) :
    e.numberAt items key count < 0 ↔ e.descends = true ∧ e.firstNumber items key < count := by
  have hfirst := e.firstNumber_nonneg items key
  rw [numberAt]
  cases e.descends with
  | true =>
    simp only [if_true, true_and]
    omega
  | false =>
    simp only [Bool.false_eq_true, if_false, false_and, iff_false]
    omega

theorem exists_key {e : Evaluation} {t : Text} (hname : e.call.name.isNumeral = true)
    (hresult : e.result = .ok t) : ∃ key, e.key? = some key := by
  rw [key?, hresult]
  exact ⟨_, if_pos hname⟩

end Evaluation

/-- A number stands in its text as the number that the first evaluation of its key and the count of the
earlier ones say. The text is a padded numeral unless a sign is counted among the digits to pad, and the
number is below zero just if more numbers were counted down than the first one allows. -/
theorem number_is_padded_iff (items : List Item) (options : RenderOptions) (now : Option Instant)
    (operations : List Operation) :
    (∀ value padding, padding ≤ Number.longestText →
      ∃ t, Number.format? value padding = .ok t ∧ FillsUp padding value t) ∧
    ∀ before e after t,
      evaluationsFrom .builtin (.start items options now) operations = before ++ e :: after →
      e.call.name.isNumeral = true → e.result = .ok t →
      ∃ key first, e.key? = some key ∧ (before ++ [e]).find? (takesFrom key) = some first ∧
        let count := before.countP (takesFrom key)
        let value := first.numberAt items key count
        FillsUp first.width value t ∧
          (value < 0 ↔ first.descends = true ∧ first.firstNumber items key < count) := by
  constructor
  · intro value padding hpadding
    exact ⟨_, if_neg (Nat.not_lt.2 hpadding), Number.fillsUp_format value padding⟩
  · intro before e after t hlog hname hresult
    obtain ⟨key, hkey⟩ := Evaluation.exists_key hname hresult
    have hobeys := ((Numbered.start items options now).run operations).obeys before e after hlog
    obtain ⟨first, hfirst, hnumber⟩ := hobeys key hkey
    obtain rfl := Except.ok.inj (hresult.symm.trans hnumber)
    exact ⟨key, first, hkey, hfirst, Number.fillsUp_format _ _,
      Evaluation.numberAt_neg_iff items key first _⟩

/-- Counting down from one to below zero. -/
theorem number_below_zero_is_filled_up :
    let a := Item.within []
    let call : Call := ⟨text "1", [text "%d3"]⟩
    let log := evaluationsFrom .builtin (.start [a] {} none)
      [.evaluate call a, .evaluate call a, .evaluate call a]
    (∃ t, Number.format? (-7) 4 = .ok t ∧ FillsUp 4 (-7) t) ∧
      log = [⟨a, call, .ok (text "001")⟩, ⟨a, call, .ok (text "000")⟩, ⟨a, call, .ok (text "0-1")⟩] ∧
      FillsUp 3 (-1) (text "0-1") := by
  intro a call log
  let number (t : Text) : Evaluation := ⟨a, call, .ok t⟩
  have hlog : log = [number (text "001"), number (text "000")] ++ number (text "0-1") :: [] := by
    decide +kernel
  obtain ⟨hformat, hnumbers⟩ := number_is_padded_iff [a] {} none
    [.evaluate call a, .evaluate call a, .evaluate call a]
  obtain ⟨key, first, hkey, hfirst, hfills, -⟩ :=
    hnumbers _ _ _ _ hlog (by decide +kernel) rfl
  have hnumber : (number (text "0-1")).key? = some ⟨text "1", some []⟩ := by decide +kernel
  obtain rfl := Option.some.inj (hnumber.symm.trans hkey)
  obtain rfl := Option.some.inj (hfirst.symm.trans
    (by decide +kernel : _ = some (number (text "001"))))
  exact ⟨hformat (-7) 4 (by decide), hlog, hfills⟩

/-- Zeros stand in front of both signs, and both numbers have one digit less than they are padded to. -/
theorem number_below_zero_is_not_padded :
    (Number.format? (-7) 4 = .ok (text "00-7") ∧ ¬ Pads 4 (-7) (text "00-7")) ∧
    let a := Item.within []
    let call : Call := ⟨text "1", [text "%d3"]⟩
    let number : Evaluation := ⟨a, call, .ok (text "0-1")⟩
    number ∈ evaluationsFrom .builtin (.start [a] {} none)
        [.evaluate call a, .evaluate call a, .evaluate call a] ∧
      number.width = 3 ∧ ¬ Pads 3 (-1) (text "0-1") := by
  have hformat : Number.format (-7) 4 = text "00-7" ∧ Number.format (-1) 3 = text "0-1" := by
    decide +kernel
  have hnot : ¬ PadsDigits 4 (-7) ∧ ¬ PadsDigits 3 (-1) := by decide +kernel
  rw [← Number.pads_format_iff, ← Number.pads_format_iff, hformat.1, hformat.2] at hnot
  exact ⟨⟨by decide +kernel, hnot.1⟩, by decide +kernel, by decide +kernel, hnot.2⟩

end NamePattern
