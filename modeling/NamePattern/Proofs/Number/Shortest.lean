import Mathlib.Algebra.Order.Round
import NamePattern.Number.Shortest
import NamePattern.Proofs.Number.Rounding
import NamePattern.Proofs.Numbering.Format

/-!
The shortest decimal of a magnitude. The search goes over units of one digit after the other and looks at the two
multiples of a unit next to the magnitude. If any multiple of it reads back, one of these does, since rounding
keeps the order; and seventeen digits are always enough. So the decimal that is found reads back, and no unit
that is larger than its last place has a multiple that does.
-/

namespace NamePattern

open Binary64 (RoundsTo IsMagnitude)

/-! ### Digits -/

namespace Text

theorem ofNat_bounds {n : ℕ} (hn : 0 < n) : 10 ^ ((ofNat n).length - 1) ≤ n ∧ n < 10 ^ (ofNat n).length := by
  fun_induction ofNat n with
  | case1 n hlt => exact ⟨hn, hlt⟩
  | case2 n hlt ih =>
    obtain ⟨hlower, hupper⟩ := ih (by omega)
    have hlength : 1 ≤ (ofNat (n / 10)).length := by
      rcases Nat.eq_zero_or_pos (ofNat (n / 10)).length with h | h
      · rw [h] at hupper
        omega
      · exact h
    rw [List.length_append, List.length_singleton, Nat.add_sub_cancel]
    obtain ⟨k, hk⟩ := Nat.exists_eq_add_of_le hlength
    rw [hk] at hlower hupper ⊢
    rw [Nat.add_sub_cancel_left] at hlower
    rw [Nat.pow_add, Nat.pow_one] at hupper ⊢
    rw [Nat.pow_add, Nat.pow_add, Nat.pow_one]
    omega

theorem toNat_append_zeros (digits : Text) (count : ℕ) :
    toNat (digits ++ List.replicate count (digit 0)) = toNat digits * 10 ^ count := by
  induction count with
  | zero => simp
  | succ count ih =>
    rw [List.replicate_succ', ← List.append_assoc, toNat_concat, ih, digitValue_digit (by decide), Nat.pow_succ]
    ring

theorem toNat_lt {t : Text} (h : ∀ u ∈ t, isDigit u = true) : toNat t < 10 ^ t.length := by
  induction t using List.reverseRecOn with
  | nil => decide
  | append_singleton t u ih =>
    have hbefore := ih fun v hv => h v (List.mem_append_left _ hv)
    have hdigit := h u (by simp)
    have hvalue : digitValue u < 10 := by
      simp only [isDigit, Bool.and_eq_true, decide_eq_true_eq, UInt16.le_iff_toNat_le] at hdigit
      have hupper : u.toNat ≤ 57 := hdigit.2
      rw [digitValue]
      omega
    rw [toNat_concat, List.length_append, List.length_singleton, Nat.pow_succ]
    omega

end Text

theorem decimalExponent_eq_log {num den : ℕ} (hnum : 0 < num) (hden : 0 < den) :
    decimalExponent num den = Int.log 10 ((num : ℚ) / den) + 1 := by
  obtain ⟨hlower, hupper⟩ := Text.ofNat_bounds hnum
  obtain ⟨hlower', hupper'⟩ := Text.ofNat_bounds hden
  have hlength : ∀ {n : ℕ}, 0 < n → n < 10 ^ (Text.ofNat n).length → 1 ≤ (Text.ofNat n).length := by
    intro n hn hlt
    by_contra hzero
    rw [Nat.lt_one_iff.1 (not_le.1 hzero)] at hlt
    omega
  obtain ⟨i, hi⟩ := Nat.exists_eq_add_of_le (hlength hnum hupper)
  obtain ⟨j, hj⟩ := Nat.exists_eq_add_of_le (hlength hden hupper')
  rw [decimalExponent]
  rw [hi, Nat.add_sub_cancel_left] at hlower
  rw [hj, Nat.add_sub_cancel_left] at hlower'
  rw [hi, Nat.add_comm] at hupper
  rw [hj, Nat.add_comm] at hupper'
  have hlog := log_quotient (by decide : 1 < 10) hlower hupper hlower' hupper'
  have hguess : ((Text.ofNat num).length : ℤ) - (Text.ofNat den).length = i - j := by omega
  rw [hguess, hlog]
  split <;> omega

theorem decimalValue_eq (digits : ℕ) (e : ℤ) : decimalValue digits e = digits * 10 ^ e := by
  rw [decimalValue]
  split
  · next he =>
    obtain ⟨n, rfl⟩ := Int.eq_ofNat_of_zero_le he
    rw [Int.toNat_natCast, zpow_natCast]
    push_cast [Nat.pow_eq]
    rfl
  · next he =>
    obtain ⟨n, rfl⟩ : ∃ n : ℕ, e = -(n : ℤ) := ⟨(-e).toNat, by omega⟩
    rw [neg_neg, Int.toNat_natCast, zpow_neg, zpow_natCast, Rat.mkRat_eq_div]
    push_cast [Nat.pow_eq]
    rfl

/-! ### Multiples of a unit that read back -/

/-- The multiple of a unit below a magnitude. -/
def unitsBelow (v : ℚ) (e : ℤ) : ℕ := (v / decimalValue 1 e).floor.toNat

theorem unitsBelow_bounds {v : ℚ} (hv : 0 < v) (e : ℤ) :
    (unitsBelow v e : ℚ) * 10 ^ e ≤ v ∧ v < (unitsBelow v e + 1 : ℕ) * 10 ^ e := by
  have hunit : (0 : ℚ) < 10 ^ e := by positivity
  have hvalue : v / decimalValue 1 e = v / 10 ^ e := by rw [decimalValue_eq, Nat.cast_one, one_mul]
  have hfloor : ((unitsBelow v e : ℕ) : ℤ) = ⌊v / 10 ^ e⌋ := by
    rw [unitsBelow, hvalue]
    have hnonneg : 0 ≤ ⌊v / 10 ^ e⌋ := Int.floor_nonneg.2 (by positivity)
    exact Int.toNat_of_nonneg hnonneg
  have hlower := Int.floor_le (v / 10 ^ e)
  have hupper := Int.lt_floor_add_one (v / 10 ^ e)
  rw [← hfloor] at hlower hupper
  rw [le_div_iff₀ hunit] at hlower
  rw [div_lt_iff₀ hunit] at hupper
  push_cast at hlower hupper ⊢
  exact ⟨hlower, hupper⟩

theorem readsBack_eq_some {v : ℚ} {e : ℤ} {n : ℕ} (h : readsBack? v e = some n) :
    Binary64.nearest (decimalValue n e) = .finite v ∧ n ≤ unitsBelow v e + 1 := by
  rw [readsBack?] at h
  dsimp only at h
  split at h
  · next hbelow habove =>
    split at h
    · cases h
      exact ⟨of_decide_eq_true hbelow, Nat.le_succ _⟩
    · cases h
      exact ⟨of_decide_eq_true habove, le_rfl⟩
  · next hbelow habove =>
    cases h
    exact ⟨of_decide_eq_true hbelow, Nat.le_succ _⟩
  · next hbelow habove =>
    cases h
    exact ⟨of_decide_eq_true habove, le_rfl⟩
  · cases h

theorem exists_readsBack {v : ℚ} {e : ℤ} (h : Binary64.nearest (decimalValue (unitsBelow v e) e) = .finite v ∨
    Binary64.nearest (decimalValue (unitsBelow v e + 1) e) = .finite v) : ∃ n, readsBack? v e = some n := by
  rw [readsBack?]
  dsimp only
  split
  · split
    · exact ⟨_, rfl⟩
    · exact ⟨_, rfl⟩
  · exact ⟨_, rfl⟩
  · exact ⟨_, rfl⟩
  · next hbelow habove =>
    rcases h with h | h
    · exact absurd h (of_decide_eq_false hbelow)
    · exact absurd h (of_decide_eq_false habove)

/-- A magnitude that the format has, and that is not too large for it. -/
structure IsPositive (v : ℚ) : Prop where
  pos : 0 < v
  magnitude : IsMagnitude v
  lt_limit : v < Binary64.limit

section
variable {v : ℚ} (hv : IsPositive v)
include hv

theorem nearest_decimalValue_iff {n : ℕ} {e : ℤ} :
    Binary64.nearest (decimalValue n e) = .finite v ↔ 0 < n ∧ RoundsTo (n * 10 ^ e) v := by
  rw [decimalValue_eq]
  rcases Nat.eq_zero_or_pos n with rfl | hn
  · refine iff_of_false (fun h => ?_) fun h => absurd h.1 (lt_irrefl 0)
    rw [Nat.cast_zero, zero_mul, Binary64.nearest_zero, Binary64.finite.injEq] at h
    exact hv.pos.ne h
  · have hpos : (0 : ℚ) < n * 10 ^ e := by positivity
    rw [Binary64.nearest_eq_finite_iff hpos, and_iff_right hn]
    exact and_iff_left hv.lt_limit

/-- If a multiple of a unit reads back, one next to the magnitude does. -/
theorem exists_readsBack_of_roundsTo {n : ℕ} {e : ℤ} (h : RoundsTo (n * 10 ^ e) v) :
    ∃ m, readsBack? v e = some m := by
  have hn := h.count_pos hv.pos
  have hunit : (0 : ℚ) < 10 ^ e := by positivity
  have hself := hv.magnitude.roundsTo_self hv.pos
  obtain ⟨hlower, hupper⟩ := unitsBelow_bounds hv.pos e
  apply exists_readsBack
  rw [nearest_decimalValue_iff hv, nearest_decimalValue_iff hv]
  rcases Nat.lt_or_ge (unitsBelow v e) n with hlt | hle
  · have hle : ((unitsBelow v e + 1 : ℕ) : ℚ) * 10 ^ e ≤ n * 10 ^ e := by
      gcongr
      exact hlt
    exact .inr ⟨Nat.succ_pos _, hself.between hv.pos hupper.le hle h⟩
  · have hle' : (n : ℚ) * 10 ^ e ≤ unitsBelow v e * 10 ^ e := by gcongr
    exact .inl ⟨hn.trans_le hle, h.between (by positivity) hle' hlower hself⟩

/-- Seventeen digits are enough. -/
theorem exists_readsBack_seventeen : ∃ m, readsBack? v (Int.log 10 v - 16) = some m := by
  have hv0 := hv.pos
  have hlog : (10 : ℚ) ^ Int.log 10 v ≤ v := by exact_mod_cast Int.zpow_log_le_self (by decide) hv0
  generalize hu : (10 : ℚ) ^ (Int.log 10 v - 16) = u
  have hu0 : 0 < u := by rw [← hu]; positivity
  have hunits : u * 10 ^ 16 ≤ v := by
    have hsplit : (10 : ℚ) ^ (Int.log 10 v - 16) * 10 ^ 16 = 10 ^ Int.log 10 v := by
      rw [← zpow_natCast, ← zpow_add₀ (by norm_num)]
      congr 1
      omega
    rwa [← hu, hsplit]
  -- the closest multiple of the unit is off by half a unit at most
  have hround : |v / u - round (v / u)| ≤ 1 / 2 := abs_sub_round _
  have hquotient : 10 ^ 16 ≤ v / u := by rwa [le_div_iff₀ hu0, mul_comm]
  have hnear := (abs_le.1 hround).2
  have hpositive : 0 < round (v / u) := by
    have : (0 : ℚ) < round (v / u) := by linarith
    exact_mod_cast this
  obtain ⟨n, hn⟩ := Int.eq_ofNat_of_zero_le hpositive.le
  have herror : |(n : ℚ) * u - v| ≤ u / 2 := by
    have hdiff : (n : ℚ) * u - v = -((v / u - round (v / u)) * u) := by
      rw [hn, Int.cast_natCast]
      field_simp
      ring
    rw [hdiff, abs_neg, abs_mul, abs_of_pos hu0]
    nlinarith
  refine exists_readsBack_of_roundsTo hv (n := n) ?_
  rw [hu]
  refine hv.magnitude.roundsTo_of_close hv0 ?_
  calc |(n : ℚ) * u - v| * 2 ^ 54 ≤ u / 2 * 2 ^ 54 := by gcongr
    _ < u * 10 ^ 16 := by linarith
    _ ≤ v := hunits

end

/-! ### The search -/

theorem findSome_range_eq_some {β : Type} {f : ℕ → Option β} {count : ℕ} {b : β}
    (h : (List.range count).findSome? f = some b) : ∃ k < count, f k = some b ∧ ∀ j < k, f j = none := by
  induction count with
  | zero => cases h
  | succ count ih =>
    rw [List.range_succ, List.findSome?_append] at h
    cases hfound : (List.range count).findSome? f with
    | some found =>
      rw [hfound] at h
      obtain ⟨k, hk, hsome, hnone⟩ := ih (hfound.trans h)
      exact ⟨k, hk.trans (Nat.lt_succ_self _), hsome, hnone⟩
    | none =>
      rw [hfound] at h
      have hbefore := List.findSome?_eq_none_iff.1 hfound
      refine ⟨count, Nat.lt_succ_self _, by simpa using h, fun j hj => hbefore j (List.mem_range.2 hj)⟩

/-- The value of a decimal. -/
def Decimal.value (d : Decimal) : ℚ := d.digits.toNat * 10 ^ (d.point - d.digits.length)

/-- A decimal is a shortest one of a magnitude: it reads back, has no zero in front, and no larger unit than its
last place has a multiple that reads back. -/
structure IsShortest (v : ℚ) (d : Decimal) : Prop where
  numeral : d.digits.isNumeral = true
  leading : 10 ^ (d.digits.length - 1) ≤ d.digits.toNat
  reads : RoundsTo d.value v
  fewest : ∀ (n : ℕ) (e : ℤ), 10 ^ e ≤ v → RoundsTo (n * 10 ^ e) v → e ≤ d.point - d.digits.length

/-- The search finds the first unit with a multiple that reads back. -/
theorem exists_found {v : ℚ} (hv : IsPositive v) :
    ∃ n k : ℕ, (List.range 17).findSome? (fun (k : ℕ) =>
        (readsBack? v (Int.log 10 v + 1 - (k + 1))).map fun digits => (digits, k + 1)) = some (n, k + 1) ∧
      k < 17 ∧ readsBack? v (Int.log 10 v + 1 - (k + 1)) = some n ∧
      ∀ j : ℕ, j < k → readsBack? v (Int.log 10 v + 1 - (j + 1)) = none := by
  generalize hsearch : (fun (k : ℕ) =>
    (readsBack? v (Int.log 10 v + 1 - (k + 1))).map fun digits => (digits, k + 1)) = search
  have hnone : ∀ j : ℕ, search j = none → readsBack? v (Int.log 10 v + 1 - (j + 1)) = none := by
    rintro j hj
    rw [← hsearch] at hj
    exact Option.map_eq_none_iff.1 hj
  cases hfound : (List.range 17).findSome? search with
  | none =>
    obtain ⟨n, hn⟩ := exists_readsBack_seventeen hv
    have hlast := hnone 16 (List.findSome?_eq_none_iff.1 hfound 16 (List.mem_range.2 (by decide)))
    have hplace : Int.log 10 v + 1 - ((16 : ℕ) + 1) = Int.log 10 v - 16 := by omega
    rw [hplace, hn] at hlast
    cases hlast
  | some found =>
    obtain ⟨k, hk, hsome, hbefore⟩ := findSome_range_eq_some hfound
    rw [← hsearch] at hsome
    obtain ⟨n, hn, rfl⟩ := Option.map_eq_some_iff.1 hsome
    exact ⟨n, k, rfl, hk, hn, fun j hj => hnone j (hbefore j hj)⟩

/-- The search comes to a multiple of a unit that reads back, and no larger unit has one. -/
theorem exists_shortestDecimal_eq {v : ℚ} (hv : IsPositive v) :
    ∃ (n : ℕ) (e : ℤ), 0 < n ∧ RoundsTo (n * 10 ^ e) v ∧
      (∀ (m : ℕ) (f : ℤ), 10 ^ f ≤ v → RoundsTo (m * 10 ^ f) v → f ≤ e) ∧
      shortestDecimal v = ⟨(Text.ofNat n).rdropWhile (· == digit 0), (Text.ofNat n).length + e⟩ := by
  have hpoint : decimalExponent v.num.natAbs v.den = Int.log 10 v + 1 := by
    have hnum : 0 < v.num.natAbs := Int.natAbs_pos.2 (Rat.num_pos.2 hv.pos).ne'
    rw [decimalExponent_eq_log hnum v.den_pos, Binary64.num_natAbs_div_den hv.pos.le]
  obtain ⟨n, k, hfound, hk, hn, hnone⟩ := exists_found hv
  obtain ⟨hpos, hround⟩ := (nearest_decimalValue_iff hv).1 (readsBack_eq_some hn).1
  refine ⟨n, Int.log 10 v + 1 - (k + 1), hpos, hround, fun m f hf hround' => ?_, ?_⟩
  · have hlog : f ≤ Int.log 10 v := (Int.zpow_le_iff_le_log (by decide) hv.pos).1 (by exact_mod_cast hf)
    by_contra hlt
    -- a larger unit would have been tried before
    obtain ⟨j, hj⟩ : ∃ j : ℕ, Int.log 10 v + 1 - (j + 1) = f := ⟨(Int.log 10 v - f).toNat, by omega⟩
    have hbefore := hnone j (by omega)
    obtain ⟨m', hm'⟩ := exists_readsBack_of_roundsTo hv hround'
    rw [hj, hm'] at hbefore
    cases hbefore
  · have hplace : Int.log 10 v + 1 + (Text.ofNat n).length - ((k + 1 : ℕ) : ℤ)
        = (Text.ofNat n).length + (Int.log 10 v + 1 - (k + 1)) := by
      push_cast
      ring
    unfold shortestDecimal
    simp only [hpoint, hfound, hplace, List.rdropWhile]

theorem isShortest_shortestDecimal {v : ℚ} (hv : IsPositive v) : IsShortest v (shortestDecimal v) := by
  obtain ⟨n, e, hn, hround, hfewest, heq⟩ := exists_shortestDecimal_eq hv
  rw [heq]
  obtain ⟨count, hcount⟩ := rdropWhile_append_replicate (digit 0) (Text.ofNat n)
  generalize (Text.ofNat n).rdropWhile (· == digit 0) = digits at hcount
  have hlength : (Text.ofNat n).length = digits.length + count := by
    rw [hcount, List.length_append, List.length_replicate]
  have hvalue : Text.toNat digits * 10 ^ count = n := by
    rw [← Text.toNat_append_zeros, ← hcount, Text.toNat_ofNat]
  have hnonempty : digits ≠ [] := by
    rintro rfl
    rw [← hvalue] at hn
    simp [Text.toNat] at hn
  have hlength' : 0 < digits.length := List.length_pos_iff.2 hnonempty
  have hplace : ((Text.ofNat n).length : ℤ) + e - digits.length = e + count := by
    rw [hlength]
    push_cast
    ring
  refine ⟨?_, ?_, ?_, fun m f hf hround' => ?_⟩
  · refine Text.isNumeral_iff.2 ⟨hnonempty, fun u hu => ?_⟩
    have hall := List.all_eq_true.1 (Text.all_ofNat n)
    exact hall u (hcount ▸ List.mem_append_left _ hu)
  · have hleading := (Text.ofNat_bounds hn).1
    have hsplit : (Text.ofNat n).length - 1 = (digits.length - 1) + count := by omega
    rw [hsplit, Nat.pow_add] at hleading
    exact Nat.le_of_mul_le_mul_right (hleading.trans hvalue.ge) (by positivity)
  · have hsame : Decimal.value ⟨digits, (Text.ofNat n).length + e⟩ = n * 10 ^ e := by
      rw [Decimal.value, hplace, zpow_add₀ (by norm_num), ← hvalue, zpow_natCast]
      push_cast
      ring
    rwa [hsame]
  · dsimp only
    rw [hplace]
    have := hfewest m f hf hround'
    omega

namespace IsShortest

variable {v : ℚ} {d : Decimal} (h : IsShortest v d)
include h

theorem le_value : 10 ^ (d.point - 1) ≤ d.value := by
  obtain ⟨n, hn⟩ := Nat.exists_eq_add_of_le' (List.length_pos_iff.2 (Text.isNumeral_iff.1 h.numeral).1)
  have hleading := h.leading
  rw [hn, Nat.add_sub_cancel] at hleading
  have hsplit : d.point - 1 = n + (d.point - d.digits.length) := by
    rw [hn]
    push_cast
    ring
  rw [Decimal.value, hsplit, zpow_add₀ (by norm_num), zpow_natCast]
  gcongr
  exact_mod_cast hleading

theorem value_lt : d.value < 10 ^ d.point := by
  have hlt := Text.toNat_lt (Text.isNumeral_iff.1 h.numeral).2
  have hsplit : d.point = d.digits.length + (d.point - d.digits.length) := by ring
  conv_rhs => rw [hsplit, zpow_add₀ (by norm_num), zpow_natCast]
  rw [Decimal.value]
  gcongr
  exact_mod_cast hlt

end IsShortest

end NamePattern
