import Mathlib.Algebra.Order.Field.Power
import Mathlib.Data.Int.Log
import Mathlib.Data.Rat.Floor
import Mathlib.Tactic.FieldSimp
import Mathlib.Tactic.GCongr
import Mathlib.Tactic.Linarith
import Mathlib.Tactic.NormNum
import Mathlib.Tactic.Positivity
import Mathlib.Tactic.Ring
import NamePattern.Number.Binary64

/-!
Rounding to the binary format. A magnitude is counted in units of its last place, and the count is rounded to the
nearest whole number, half to even (`RoundsTo`). Rounding keeps the order of magnitudes, leaves those of the
format as they are, and takes whatever is close enough to one of them to it.
-/

namespace NamePattern

/-! ### Whole numbers -/

/-- A whole number closest to a quotient, the even one of two. -/
structure IsHalfEven (n : ℕ) (r : ℚ) : Prop where
  error_le : |r - n| ≤ 1 / 2
  even_of_tie : |r - n| = 1 / 2 → Even n

namespace IsHalfEven

theorem of_lt {n : ℕ} {r : ℚ} (h : |r - n| < 1 / 2) : IsHalfEven n r :=
  ⟨h.le, fun htie => absurd htie h.ne⟩

theorem natCast (n : ℕ) : IsHalfEven n n := of_lt (by simp)

theorem mono {m n : ℕ} {r s : ℚ} (hm : IsHalfEven m r) (hn : IsHalfEven n s) (hle : r ≤ s) : m ≤ n := by
  by_contra hlt
  have hnext : (n : ℚ) + 1 ≤ m := by exact_mod_cast not_le.1 hlt
  have hlower := (abs_le.1 hm.error_le).1
  have hupper := (abs_le.1 hn.error_le).2
  -- both quotients lie half way between the two whole numbers, and then both of these are even
  have hr : r - m = -(1 / 2) := by linarith
  have hs : s - n = 1 / 2 := by linarith
  have hsucc : m = n + 1 := by
    have : (m : ℚ) = n + 1 := by linarith
    exact_mod_cast this
  have hmeven : Even m := hm.even_of_tie (by rw [hr]; norm_num)
  have hneven : Even n := hn.even_of_tie (by rw [hs]; norm_num)
  rw [hsucc, Nat.even_add_one] at hmeven
  exact hmeven hneven

theorem unique {m n : ℕ} {r : ℚ} (hm : IsHalfEven m r) (hn : IsHalfEven n r) : m = n :=
  le_antisymm (hm.mono hn le_rfl) (hn.mono hm le_rfl)

theorem of_rest {n num den : ℕ} {rest : ℤ} (hden : 0 < den) (hnum : (num : ℤ) = n * den + rest)
    (hhalf : 2 * rest.natAbs ≤ den) (htie : 2 * rest.natAbs = den → Even n) :
    IsHalfEven n ((num : ℚ) / den) := by
  have hpos : (0 : ℚ) < den := by exact_mod_cast hden
  have herror : |(num : ℚ) / den - n| = rest.natAbs / den := by
    have hnum' : (num : ℚ) = n * den + rest := by exact_mod_cast hnum
    have hrest : (num : ℚ) / den - n = rest / den := by
      rw [hnum']
      field_simp
      ring
    rw [hrest, abs_div, abs_of_pos hpos, Nat.cast_natAbs, Int.cast_abs]
  refine ⟨?_, fun h => htie ?_⟩
  · rw [herror, div_le_div_iff₀ hpos two_pos]
    have : ((2 * rest.natAbs : ℕ) : ℚ) ≤ den := by exact_mod_cast hhalf
    push_cast at this
    linarith
  · rw [herror, div_eq_div_iff hpos.ne' two_ne_zero] at h
    have : ((2 * rest.natAbs : ℕ) : ℚ) = den := by
      push_cast
      linarith
    exact_mod_cast this

end IsHalfEven

theorem isHalfEven_halfEven (num : ℕ) {den : ℕ} (hden : 0 < den) :
    IsHalfEven (halfEven num den) ((num : ℚ) / den) := by
  have hsplit : (num : ℤ) = (num / den : ℕ) * den + (num % den : ℕ) := by
    exact_mod_cast (Nat.div_add_mod' num den).symm
  have hlt := Nat.mod_lt num hden
  rw [halfEven]
  split
  · next h =>
    simp only [Bool.or_eq_true, Bool.and_eq_true, decide_eq_true_eq, beq_iff_eq] at h
    refine .of_rest hden hsplit (by omega) fun htie => ?_
    rw [Nat.even_iff]
    omega
  · next h =>
    simp only [Bool.or_eq_true, Bool.and_eq_true, decide_eq_true_eq, beq_iff_eq, not_or, not_and] at h
    have hnext : (num : ℤ) = (num / den + 1 : ℕ) * den + ((num % den : ℕ) - den) := by
      rw [hsplit]
      push_cast
      ring
    refine .of_rest hden hnext (by omega) fun htie => ?_
    rw [Nat.even_add_one, Nat.even_iff]
    exact h.2 (by omega)

/-! ### Exponents -/

theorem reachesPower_iff {base num den : ℕ} (hbase : 0 < base) (hden : 0 < den) (e : ℤ) :
    reachesPower base num den e = true ↔ (base : ℚ) ^ e ≤ (num : ℚ) / den := by
  have hden' : (0 : ℚ) < den := by exact_mod_cast hden
  rw [reachesPower, le_div_iff₀ hden']
  split
  · next he =>
    obtain ⟨n, rfl⟩ := Int.eq_ofNat_of_zero_le he
    rw [decide_eq_true_eq, Int.toNat_natCast, zpow_natCast]
    exact_mod_cast Iff.rfl
  · next he =>
    obtain ⟨n, rfl⟩ : ∃ n : ℕ, e = -(n : ℤ) := ⟨(-e).toNat, by omega⟩
    have hpow : (0 : ℚ) < (base : ℚ) ^ n := by positivity
    rw [decide_eq_true_eq, neg_neg, Int.toNat_natCast, zpow_neg, zpow_natCast, ← div_eq_inv_mul,
      div_le_iff₀ hpow]
    exact_mod_cast Iff.rfl

/-- The logarithm of a quotient, guessed from the lengths of its parts. -/
theorem log_quotient {base num den i j : ℕ} (hbase : 1 < base) (hnum : base ^ i ≤ num) (hnum' : num < base ^ (i + 1))
    (hden : base ^ j ≤ den) (hden' : den < base ^ (j + 1)) :
    Int.log base ((num : ℚ) / den)
      = if reachesPower base num den (i - j) then (i : ℤ) - j else i - j - 1 := by
  have hbase' : (0 : ℚ) < base := by exact_mod_cast hbase.le
  have hpos : 0 < den := lt_of_lt_of_le (by positivity) hden
  have hd : (0 : ℚ) < den := by exact_mod_cast hpos
  have hn : (0 : ℚ) < num := by exact_mod_cast lt_of_lt_of_le (by positivity) hnum
  have hquotient : (0 : ℚ) < (num : ℚ) / den := by positivity
  have hlower : ((i : ℤ) - j - 1) ≤ Int.log base ((num : ℚ) / den) := by
    rw [← Int.zpow_le_iff_le_log hbase hquotient, le_div_iff₀ hd]
    have hsum : (i : ℤ) = (i - j - 1) + (j + 1 : ℕ) := by push_cast; ring
    calc (base : ℚ) ^ ((i : ℤ) - j - 1) * den
        ≤ (base : ℚ) ^ ((i : ℤ) - j - 1) * (base ^ (j + 1) : ℕ) := by gcongr
      _ = (base ^ i : ℕ) := by
        push_cast
        rw [← zpow_natCast, ← zpow_natCast, ← zpow_add₀ hbase'.ne', ← hsum]
      _ ≤ num := by exact_mod_cast hnum
  have hupper : Int.log base ((num : ℚ) / den) < (i : ℤ) - j + 1 := by
    rw [← Int.lt_zpow_iff_log_lt hbase hquotient, div_lt_iff₀ hd]
    have hsum : ((i + 1 : ℕ) : ℤ) = (i - j + 1) + (j : ℕ) := by push_cast; ring
    calc (num : ℚ) < (base ^ (i + 1) : ℕ) := by exact_mod_cast hnum'
      _ = (base : ℚ) ^ ((i : ℤ) - j + 1) * (base ^ j : ℕ) := by
        push_cast
        rw [← zpow_natCast, ← zpow_natCast, ← zpow_add₀ hbase'.ne', ← hsum]
      _ ≤ (base : ℚ) ^ ((i : ℤ) - j + 1) * den := by gcongr
  have hmiddle : reachesPower base num den (i - j) = true ↔ (base : ℚ) ^ ((i : ℤ) - j) ≤ (num : ℚ) / den :=
    reachesPower_iff hbase.le hpos _
  rw [Int.zpow_le_iff_le_log hbase hquotient] at hmiddle
  split
  · next h =>
    have := hmiddle.1 h
    omega
  · next h =>
    have := mt hmiddle.2 h
    omega

theorem binaryExponent_eq_log {num den : ℕ} (hnum : 0 < num) (hden : 0 < den) :
    binaryExponent num den = Int.log 2 ((num : ℚ) / den) := by
  have hlog := log_quotient one_lt_two (Nat.log2_self_le hnum.ne') Nat.lt_log2_self
    (Nat.log2_self_le hden.ne') Nat.lt_log2_self
  rw [hlog]
  rfl

/-! ### Last places -/

namespace Binary64

/-- The exponent of the last place of a magnitude. -/
def lastPlace (x : ℚ) : ℤ := max (Int.log 2 x - 52) minExponent

theorem two_zpow_pos (e : ℤ) : (0 : ℚ) < 2 ^ e := zpow_pos two_pos e

theorem lastPlace_mono {x y : ℚ} (hx : 0 < x) (hle : x ≤ y) : lastPlace x ≤ lastPlace y :=
  max_le_max (by have := Int.log_mono_right (b := 2) hx hle; omega) le_rfl

/-- A magnitude has 53 bits at most in front of the end of its last place. -/
theorem lt_lastPlace (x : ℚ) : x < 2 ^ 53 * 2 ^ lastPlace x := by
  have hlog : x < 2 ^ (Int.log 2 x + 1) := Int.lt_zpow_succ_log_self one_lt_two x
  have hle : Int.log 2 x + 1 ≤ 53 + lastPlace x := by
    have := le_max_left (Int.log 2 x - 52) minExponent
    rw [lastPlace]
    omega
  calc x < 2 ^ (Int.log 2 x + 1) := hlog
    _ ≤ 2 ^ (53 + lastPlace x) := zpow_le_zpow_right₀ one_le_two hle
    _ = 2 ^ 53 * 2 ^ lastPlace x := by rw [zpow_add₀ two_ne_zero]; norm_num

/-- Only the smallest magnitudes have fewer bits. -/
theorem lastPlace_le {x : ℚ} (hx : 0 < x) (hplace : minExponent < lastPlace x) :
    2 ^ 52 * 2 ^ lastPlace x ≤ x := by
  have hlog : lastPlace x = Int.log 2 x - 52 := by
    rw [lastPlace, lt_max_iff] at hplace
    rw [lastPlace]
    omega
  calc (2 : ℚ) ^ 52 * 2 ^ lastPlace x = 2 ^ (52 + lastPlace x) := by rw [zpow_add₀ two_ne_zero]; norm_num
    _ = 2 ^ Int.log 2 x := by rw [hlog]; congr 1; ring
    _ ≤ x := Int.zpow_log_le_self one_lt_two hx

theorem lastPlace_eq {x : ℚ} (hx : 0 < x) {e : ℤ} (hplace : minExponent ≤ e) (hupper : x < 2 ^ 53 * 2 ^ e)
    (hlower : minExponent < e → 2 ^ 52 * 2 ^ e ≤ x) : lastPlace x = e := by
  have hlt : Int.log 2 x < 53 + e := by
    rw [← Int.lt_zpow_iff_log_lt one_lt_two hx, Nat.cast_two, zpow_add₀ two_ne_zero]
    exact_mod_cast hupper
  have hle : minExponent < e → 52 + e ≤ Int.log 2 x := by
    intro he
    rw [← Int.zpow_le_iff_le_log one_lt_two hx, Nat.cast_two, zpow_add₀ two_ne_zero]
    exact_mod_cast hlower he
  rw [lastPlace]
  omega

/-! ### Magnitudes of the format -/

/-- A magnitude is rounded to another one in units of its last place. -/
def RoundsTo (x y : ℚ) : Prop :=
  ∃ n : ℕ, IsHalfEven n (x / 2 ^ lastPlace x) ∧ y = n * 2 ^ lastPlace x

/-- A magnitude of at most 53 bits, none of them below the last place of the smallest numbers. -/
def IsMagnitude (v : ℚ) : Prop :=
  ∃ (m : ℕ) (e : ℤ), m < 2 ^ 53 ∧ minExponent ≤ e ∧ v = m * 2 ^ e

theorem RoundsTo.mono {a b v w : ℚ} (ha : 0 < a) (hle : a ≤ b) (hv : RoundsTo a v) (hw : RoundsTo b w) :
    v ≤ w := by
  obtain ⟨m, hm, rfl⟩ := hv
  obtain ⟨n, hn, rfl⟩ := hw
  have hua := two_zpow_pos (lastPlace a)
  have hub := two_zpow_pos (lastPlace b)
  rcases (lastPlace_mono ha hle).eq_or_lt with hplace | hplace
  · rw [hplace] at hm ⊢
    have hmn : m ≤ n := hm.mono hn (by gcongr)
    gcongr
  · -- a power of two lies between them that is counted exactly in the units of both
    have hm' : m ≤ 2 ^ 53 := by
      refine hm.mono (.natCast (2 ^ 53)) ?_
      rw [div_le_iff₀ hua]
      exact_mod_cast (lt_lastPlace a).le
    have hn' : 2 ^ 52 ≤ n := by
      refine IsHalfEven.mono (.natCast (2 ^ 52)) hn ?_
      rw [le_div_iff₀ hub]
      exact_mod_cast lastPlace_le (ha.trans_le hle) (lt_of_le_of_lt (le_max_right _ _) hplace)
    have hdouble : (2 : ℚ) ^ lastPlace a * 2 ≤ 2 ^ lastPlace b := by
      rw [← zpow_add_one₀ two_ne_zero]
      exact zpow_le_zpow_right₀ one_le_two hplace
    calc (m : ℚ) * 2 ^ lastPlace a ≤ (2 ^ 53 : ℕ) * 2 ^ lastPlace a := by gcongr
      _ = (2 ^ 52 : ℕ) * (2 ^ lastPlace a * 2) := by push_cast; ring
      _ ≤ (2 ^ 52 : ℕ) * 2 ^ lastPlace b := by gcongr
      _ ≤ n * 2 ^ lastPlace b := by gcongr

theorem RoundsTo.eq_zero {v : ℚ} (h : RoundsTo 0 v) : v = 0 := by
  obtain ⟨n, hn, rfl⟩ := h
  rw [zero_div] at hn
  rw [hn.unique (.natCast 0), Nat.cast_zero, zero_mul]

theorem RoundsTo.count_pos {n : ℕ} {u v : ℚ} (h : RoundsTo (n * u) v) (hv : 0 < v) : 0 < n := by
  by_contra hzero
  rw [Nat.eq_zero_of_not_pos hzero, Nat.cast_zero, zero_mul] at h
  exact hv.ne' h.eq_zero

theorem RoundsTo.unique {a v w : ℚ} (ha : 0 < a) (hv : RoundsTo a v) (hw : RoundsTo a w) : v = w :=
  le_antisymm (hv.mono ha le_rfl hw) (hw.mono ha le_rfl hv)

theorem roundsTo_nearestMagnitude {num den : ℕ} (hnum : 0 < num) (hden : 0 < den) :
    RoundsTo ((num : ℚ) / den) (nearestMagnitude num den) := by
  have hplace : max (binaryExponent num den - 52) minExponent = lastPlace ((num : ℚ) / den) := by
    rw [lastPlace, binaryExponent_eq_log hnum hden]
  have hd : (den : ℚ) ≠ 0 := by exact_mod_cast hden.ne'
  rw [RoundsTo, nearestMagnitude]
  simp only [hplace, Nat.pow_eq]
  generalize lastPlace ((num : ℚ) / den) = p
  split
  · next hp =>
    obtain ⟨n, rfl⟩ := Int.eq_ofNat_of_zero_le hp
    rw [Int.toNat_natCast, zpow_natCast]
    refine ⟨halfEven num (den * 2 ^ n), ?_, by push_cast; rfl⟩
    have hunits : (num : ℚ) / den / 2 ^ n = num / (den * 2 ^ n : ℕ) := by
      push_cast
      rw [div_div]
    rw [hunits]
    exact isHalfEven_halfEven num (by positivity)
  · next hp =>
    obtain ⟨n, rfl⟩ : ∃ n : ℕ, p = -(n : ℤ) := ⟨(-p).toNat, by omega⟩
    rw [neg_neg, Int.toNat_natCast, zpow_neg, zpow_natCast]
    refine ⟨halfEven (num * 2 ^ n) den, ?_, ?_⟩
    · have hunits : (num : ℚ) / den / (2 ^ n)⁻¹ = (num * 2 ^ n : ℕ) / den := by
        push_cast
        field_simp
      rw [hunits]
      exact isHalfEven_halfEven _ hden
    · rw [Rat.mkRat_eq_div]
      push_cast
      rfl

theorem num_natAbs_div_den {x : ℚ} (hx : 0 ≤ x) : (x.num.natAbs : ℚ) / x.den = x := by
  rw [Nat.cast_natAbs, abs_of_nonneg (Rat.num_nonneg.2 hx)]
  exact Rat.num_div_den x

theorem nearest_of_pos {x : ℚ} (hx : 0 < x) :
    ∃ v, RoundsTo x v ∧ nearest x = if limit ≤ v then .infinite false else .finite v := by
  have hnum : 0 < x.num := Rat.num_pos.2 hx
  have hround := roundsTo_nearestMagnitude (Int.natAbs_pos.2 hnum.ne') x.den_pos
  rw [num_natAbs_div_den hx.le] at hround
  refine ⟨_, hround, ?_⟩
  rw [nearest]
  simp only [hnum.ne', hnum.not_gt, if_false, decide_false]

/-- A magnitude is read as another one if it is rounded to it and that one is not too large. -/
theorem nearest_eq_finite_iff {x v : ℚ} (hx : 0 < x) : nearest x = .finite v ↔ RoundsTo x v ∧ v < limit := by
  obtain ⟨w, hround, hnearest⟩ := nearest_of_pos hx
  rw [hnearest]
  constructor
  · intro h
    split at h
    · cases h
    · next hlimit =>
      cases h
      exact ⟨hround, not_le.1 hlimit⟩
  · rintro ⟨hv, hlimit⟩
    obtain rfl := hv.unique hx hround
    exact if_neg (not_le.2 hlimit)

theorem nearest_zero : nearest 0 = .finite 0 := by decide +kernel

theorem nearest_neg_iff {x v : ℚ} (hx : 0 < x) : nearest (-x) = .finite (-v) ↔ nearest x = .finite v := by
  have hnum : 0 < x.num := Rat.num_pos.2 hx
  have hneg : -x.num < 0 := neg_neg_of_pos hnum
  rw [nearest, nearest]
  simp only [Rat.num_neg_eq_neg_num, Rat.den_neg_eq_den, Int.natAbs_neg, hneg.ne, hneg, hnum.ne', hnum.not_gt,
    if_false, if_true]
  split
  · exact iff_of_false nofun nofun
  · rw [finite.injEq, finite.injEq, neg_inj]

theorem nearest_neg {x v : ℚ} (hx : 0 ≤ x) (h : nearest x = .finite v) : nearest (-x) = .finite (-v) := by
  rcases hx.eq_or_lt with rfl | hpos
  · rw [nearest_zero, finite.injEq] at h
    rw [← h, neg_zero, nearest_zero]
  · exact (nearest_neg_iff hpos).2 h

/-- Magnitudes between two that are rounded alike are rounded so too. -/
theorem RoundsTo.between {a b x v : ℚ} (ha : 0 < a) (hax : a ≤ x) (hxb : x ≤ b) (hav : RoundsTo a v)
    (hbv : RoundsTo b v) : RoundsTo x v := by
  obtain ⟨w, hw, -⟩ := nearest_of_pos (ha.trans_le hax)
  have hvw := hav.mono ha hax hw
  have hwv := hw.mono (ha.trans_le hax) hxb hbv
  exact le_antisymm hwv hvw ▸ hw

/-! ### Magnitudes of the format -/

theorem IsMagnitude.nonneg {v : ℚ} (hv : IsMagnitude v) : 0 ≤ v := by
  obtain ⟨m, e, -, -, rfl⟩ := hv
  positivity

theorem isMagnitude_natCast {n : ℕ} (h : n ≤ 2 ^ 53) : IsMagnitude n := by
  rcases h.lt_or_eq with h | rfl
  · exact ⟨n, 0, h, by decide, by simp⟩
  · exact ⟨2 ^ 52, 1, by decide, by decide, by norm_num⟩

/-- There are no fractions among large magnitudes. -/
theorem IsMagnitude.exists_natCast {v : ℚ} (hv : IsMagnitude v) (hlarge : 2 ^ 53 ≤ v) : ∃ n : ℕ, v = n := by
  obtain ⟨m, e, hm, -, rfl⟩ := hv
  have he : 0 ≤ e := by
    by_contra hneg
    have hpow : (2 : ℚ) ^ e ≤ 1 := zpow_le_one_of_nonpos₀ one_le_two (not_le.1 hneg).le
    have hm' : (m : ℚ) < 2 ^ 53 := by exact_mod_cast hm
    have : (m : ℚ) * 2 ^ e ≤ m * 1 := by gcongr
    linarith
  obtain ⟨n, rfl⟩ := Int.eq_ofNat_of_zero_le he
  exact ⟨m * 2 ^ n, by push_cast; rw [zpow_natCast]⟩

theorem RoundsTo.isMagnitude {x v : ℚ} (h : RoundsTo x v) : IsMagnitude v := by
  obtain ⟨n, hn, rfl⟩ := h
  have hle : n ≤ 2 ^ 53 := by
    refine hn.mono (.natCast (2 ^ 53)) ?_
    rw [div_le_iff₀ (two_zpow_pos _)]
    exact_mod_cast (lt_lastPlace x).le
  have hplace : minExponent ≤ lastPlace x := le_max_right _ _
  rcases hle.lt_or_eq with hlt | rfl
  · exact ⟨n, lastPlace x, hlt, hplace, rfl⟩
  · refine ⟨2 ^ 52, lastPlace x + 1, by decide, by omega, ?_⟩
    rw [zpow_add_one₀ two_ne_zero]
    push_cast
    ring

theorem IsMagnitude.lastPlace_le {m : ℕ} {e : ℤ} (hm : m < 2 ^ 53) (he : minExponent ≤ e)
    (hpos : (0 : ℚ) < m * 2 ^ e) : lastPlace (m * 2 ^ e) ≤ e := by
  have hlog : Int.log 2 ((m : ℚ) * 2 ^ e) < 53 + e := by
    rw [← Int.lt_zpow_iff_log_lt one_lt_two hpos, Nat.cast_two, zpow_add₀ two_ne_zero]
    have hm' : (m : ℚ) < 2 ^ 53 := by exact_mod_cast hm
    have := two_zpow_pos e
    exact_mod_cast (by gcongr : (m : ℚ) * 2 ^ e < 2 ^ 53 * 2 ^ e)
  rw [lastPlace]
  omega

/-- A magnitude of the format is rounded to itself. -/
theorem IsMagnitude.roundsTo_self {v : ℚ} (hv : IsMagnitude v) (hpos : 0 < v) : RoundsTo v v := by
  obtain ⟨m, e, hm, he, rfl⟩ := hv
  obtain ⟨k, hk⟩ : ∃ k : ℕ, e = k + lastPlace (m * 2 ^ e) :=
    ⟨(e - lastPlace (m * 2 ^ e)).toNat, by have := IsMagnitude.lastPlace_le hm he hpos; omega⟩
  have hunits : (m : ℚ) * 2 ^ e = (m * 2 ^ k : ℕ) * 2 ^ lastPlace (m * 2 ^ e) := by
    conv_lhs => rw [hk, zpow_add₀ two_ne_zero, zpow_natCast]
    push_cast
    ring
  refine ⟨m * 2 ^ k, ?_, hunits⟩
  rw [(div_eq_iff (two_zpow_pos _).ne').2 hunits]
  exact .natCast _

theorem roundsTo_natCast {n : ℕ} (hpos : 0 < n) (hle : n ≤ 2 ^ 53) : RoundsTo n n :=
  (isMagnitude_natCast hle).roundsTo_self (by exact_mod_cast hpos)

theorem RoundsTo.of_error {x : ℚ} {n : ℕ} {e : ℤ} (hplace : lastPlace x = e)
    (herror : |x - n * 2 ^ e| < 2 ^ e / 2) : RoundsTo x (n * 2 ^ e) := by
  have hpos := two_zpow_pos e
  refine ⟨n, .of_lt ?_, by rw [hplace]⟩
  have hunits : x / 2 ^ e - n = (x - n * 2 ^ e) / 2 ^ e := by
    field_simp
  rw [hplace, hunits, abs_div, abs_of_pos hpos, div_lt_iff₀ hpos]
  linarith

/-- Below a power of two the last place is half as large as above it. -/
theorem roundsTo_of_below_power {x : ℚ} {e : ℤ} (hplace : minExponent ≤ e) (hbelow : x < 2 ^ 53 * 2 ^ e)
    (hclose : (2 ^ 53 * 2 ^ e - x) * 2 ^ 54 < 2 ^ 53 * 2 ^ e) : RoundsTo x ((2 ^ 53 : ℕ) * 2 ^ e) := by
  have hu := two_zpow_pos e
  refine .of_error (lastPlace_eq (by linarith) hplace hbelow fun _ => by linarith) ?_
  rw [abs_lt]
  push_cast
  constructor <;> linarith

/-- What is close enough to a magnitude of the format is rounded to it. -/
theorem IsMagnitude.roundsTo_of_close {x v : ℚ} (hv : IsMagnitude v) (hpos : 0 < v)
    (hclose : |x - v| * 2 ^ 54 < v) : RoundsTo x v := by
  obtain ⟨n, -, hunits⟩ := hv.roundsTo_self hpos
  have hupper := lt_lastPlace v
  have hlower := Binary64.lastPlace_le hpos
  have hleast : minExponent ≤ lastPlace v := le_max_right _ _
  generalize lastPlace v = e at *
  have hu := two_zpow_pos e
  subst hunits
  have hn : n < 2 ^ 53 := by
    have := lt_of_mul_lt_mul_right hupper hu.le
    exact_mod_cast this
  have hn' : (n : ℚ) + 1 ≤ 2 ^ 53 := by exact_mod_cast hn
  have herror : |x - n * 2 ^ e| < 2 ^ e / 2 := by nlinarith
  obtain ⟨habove, hbelow⟩ := abs_lt.1 herror
  have hdistance := (abs_lt.1 ((lt_div_iff₀ (by positivity)).2 hclose)).1
  by_cases hplace : minExponent < e → 2 ^ 52 * 2 ^ e ≤ x
  · have hx : x < 2 ^ 53 * 2 ^ e := by nlinarith
    exact .of_error (lastPlace_eq (by linarith) hleast hx hplace) herror
  · obtain ⟨he, hlt⟩ := Classical.not_imp.1 hplace
    rw [not_le] at hlt
    -- so the magnitude is a power of two and the other number lies below it
    have hpower : n = 2 ^ 52 := by
      have hle := le_of_mul_le_mul_right (hlower he) hu
      have hge : 2 ^ 52 ≤ n := by exact_mod_cast hle
      have hlt' : (n : ℚ) < 2 ^ 52 + 1 := by nlinarith
      have hlt'' : n < 2 ^ 52 + 1 := by exact_mod_cast hlt'
      omega
    have hhalf : (n : ℚ) * 2 ^ e = (2 ^ 53 : ℕ) * 2 ^ (e - 1) := by
      rw [hpower, show e = e - 1 + 1 by ring, zpow_add_one₀ two_ne_zero]
      push_cast
      ring_nf
    have hx : x < n * 2 ^ e := hlt.trans_le (hlower he)
    rw [hhalf] at hdistance hx ⊢
    push_cast at hdistance hx
    exact roundsTo_of_below_power (by omega) hx (by linarith)

end Binary64

end NamePattern
