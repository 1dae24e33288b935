import Mathlib.Algebra.Order.Floor.Semifield
import NamePattern.Number.Fixed
import NamePattern.Proofs.Number.Shortest
import NamePattern.Proofs.Numbering.Numeral
import NamePattern.Render

/-!
Fractions as they are written. A number is rounded to some places and what comes out is written again: with one
zero behind the point if it is whole, and else in its shortest digits. These show no more places than it was
rounded to, since the rounded decimal reads back. They have no exponent either, as numbers with a fraction are
too small for one, with one exception: what is above zero and below the millionth is written with an exponent.
-/

namespace NamePattern

/-! ### Plain fractions -/

/-- Digits, a point and digits again, some places of them at most. -/
def ShowsPoint (places : ℕ) (t : Text) : Prop :=
  ∃ whole part : Text, whole.isNumeral = true ∧ part.isNumeral = true ∧ part.length ≤ places ∧
    t = whole ++ unit '.' :: part

/-- A fraction without an exponent, behind a sign or not. -/
inductive IsPlainFraction (places : ℕ) : Text → Prop
  | unsigned {t : Text} (h : ShowsPoint places t) : IsPlainFraction places t
  | signed {t : Text} (h : ShowsPoint places t) : IsPlainFraction places (unit '-' :: t)

namespace Text

theorem isNumeral_take {t : Text} (h : t.isNumeral = true) {n : ℕ} (hn : 0 < n) :
    isNumeral (t.take n) = true := by
  rw [isNumeral_iff] at h ⊢
  exact ⟨by simp [h.1, hn.ne'], fun u hu => h.2 u (List.mem_of_mem_take hu)⟩

theorem isNumeral_drop {t : Text} (h : t.isNumeral = true) {n : ℕ} (hn : n < t.length) :
    isNumeral (t.drop n) = true := by
  rw [isNumeral_iff] at h ⊢
  exact ⟨by simpa using hn, fun u hu => h.2 u (List.mem_of_mem_drop hu)⟩

end Text

theorem ShowsPoint.mono {places more : ℕ} {t : Text} (h : ShowsPoint places t) (hle : places ≤ more) :
    ShowsPoint more t := by
  obtain ⟨whole, part, hwhole, hpart, hlength, htext⟩ := h
  exact ⟨whole, part, hwhole, hpart, hlength.trans hle, htext⟩

theorem ShowsPoint.mark_notMem {places : ℕ} {t : Text} (h : ShowsPoint places t) : unit 'e' ∉ t := by
  obtain ⟨whole, part, hwhole, hpart, -, rfl⟩ := h
  have hdigit : ∀ {digits : Text}, digits.isNumeral = true → unit 'e' ∉ digits := fun hdigits hmark =>
    absurd ((Text.isNumeral_iff.1 hdigits).2 _ hmark) (by decide)
  rw [List.mem_append, List.mem_cons]
  rintro (hmark | hmark | hmark)
  · exact hdigit hwhole hmark
  · exact absurd hmark (by decide)
  · exact hdigit hpart hmark

theorem IsPlainFraction.mark_notMem {places : ℕ} {t : Text} (h : IsPlainFraction places t) : unit 'e' ∉ t := by
  cases h with
  | unsigned h => exact h.mark_notMem
  | signed h =>
    rw [List.mem_cons]
    rintro (hmark | hmark)
    · exact absurd hmark (by decide)
    · exact h.mark_notMem hmark

theorem showsPoint_placesText (count : ℕ) {places : ℕ} (hplaces : 0 < places) :
    ShowsPoint places (placesText count places) := by
  rw [placesText, if_neg hplaces.ne']
  dsimp only
  have hlength := Text.le_length_padStart (places + 1) (digit 0) (Text.ofNat count)
  have hdigits : (Text.padStart (places + 1) (digit 0) (Text.ofNat count)).isNumeral = true :=
    Text.isNumeral_zeros_append_ofNat _ count
  generalize Text.padStart (places + 1) (digit 0) (Text.ofNat count) = digits at hlength hdigits
  have hpart : (digits.drop (digits.length - places)).length = places := by
    rw [List.length_drop]
    omega
  exact ⟨_, _, Text.isNumeral_take hdigits (by omega), Text.isNumeral_drop hdigits (by omega), hpart.le, rfl⟩

namespace Decimal

/-- The point stands in front of the last digit and not far in front of the first one. -/
theorem showsPoint_toText {d : Decimal} {places : ℕ} (hdigits : d.digits.isNumeral = true)
    (hlow : -mostZeros < d.point) (hhigh : d.point ≤ longestWhole) (hlength : d.point < d.digits.length)
    (hplaces : d.digits.length - d.point ≤ places) : ShowsPoint places d.toText := by
  rw [toText]
  simp only [hlow, hhigh, not_le.2 hlength, decide_true, decide_false, Bool.true_and, Bool.false_eq_true,
    Bool.and_true, if_false, decide_eq_true_eq]
  by_cases hpoint : 0 < d.point
  · rw [if_pos hpoint]
    have hpart : (d.digits.drop d.point.toNat).length ≤ places := by
      rw [List.length_drop]
      omega
    exact ⟨_, _, Text.isNumeral_take hdigits (by omega), Text.isNumeral_drop hdigits (by omega), hpart, rfl⟩
  · rw [if_neg hpoint, if_pos (not_lt.1 hpoint)]
    refine ⟨[digit 0], _, by decide, Text.isNumeral_zeros_append hdigits (-d.point).toNat, ?_, rfl⟩
    rw [List.length_append, List.length_replicate]
    omega

theorem mark_mem_toText {d : Decimal} (hlow : d.point ≤ -mostZeros) : unit 'e' ∈ d.toText := by
  have hpoint : d.point ≤ -6 := hlow
  have hcount : ¬ (d.digits.length : ℤ) ≤ d.point := by omega
  have hwhole : ¬ 0 < d.point := by omega
  rw [toText]
  simp only [hcount, hwhole, not_lt.2 hlow, decide_false, Bool.false_and, Bool.false_eq_true, if_false]
  split <;> simp

end Decimal

namespace Binary64

/-! ### Rounding to places -/

theorem unitsInPlaces_eq_floor {m : ℚ} (hm : 0 ≤ m) (places : ℕ) :
    unitsInPlaces m places = ⌊m * 10 ^ places + 1 / 2⌋₊ := by
  have hden : (m.den : ℚ) ≠ 0 := by exact_mod_cast m.den_pos.ne'
  have hquotient : m * 10 ^ places + 1 / 2
      = ((2 * (m.num.natAbs * 10 ^ places) + m.den : ℕ) : ℚ) / (2 * m.den : ℕ) := by
    conv_lhs => rw [← num_natAbs_div_den hm]
    push_cast
    field_simp
  rw [hquotient, Nat.floor_div_eq_div]
  rfl

theorem unitsInPlaces_natCast (n places : ℕ) : unitsInPlaces n places = n * 10 ^ places := by
  rw [unitsInPlaces_eq_floor n.cast_nonneg, Nat.floor_eq_iff (by positivity)]
  push_cast
  constructor <;> linarith

theorem unitsInPlaces_mono {m m' : ℚ} (hm : 0 ≤ m) (hle : m ≤ m') (places : ℕ) :
    unitsInPlaces m places ≤ unitsInPlaces m' places := by
  rw [unitsInPlaces_eq_floor hm, unitsInPlaces_eq_floor (hm.trans hle)]
  gcongr

theorem fixedLimit_eq : fixedLimit = 10 ^ 21 := by norm_num [fixedLimit]

theorem abs_eq (q : ℚ) : q.abs = |q| := by
  rw [Rat.abs, abs_eq_max_neg]
  split <;> simp <;> linarith

theorem roundTo_eq {q : ℚ} (hlt : |q| < 10 ^ 21) (places : ℕ) :
    (finite q).roundTo places = nearest (if q < 0 then -(unitsInPlaces |q| places * 10 ^ (-places : ℤ))
      else unitsInPlaces |q| places * 10 ^ (-places : ℤ)) := by
  have hunits : mkRat (unitsInPlaces |q| places) (Nat.pow 10 places)
      = unitsInPlaces |q| places * 10 ^ (-places : ℤ) := by
    rw [Rat.mkRat_eq_div, zpow_neg, zpow_natCast, div_eq_mul_inv]
    push_cast [Nat.pow_eq]
    rfl
  rw [roundTo, abs_eq, fixedLimit_eq, if_neg (not_le.2 hlt)]
  simp only [hunits, Rat.num_neg]

/-- What a magnitude is rounded to: there is no fraction left, or it is small enough to have one. -/
structure IsRounded (places : ℕ) (v : ℚ) : Prop where
  nonneg : 0 ≤ v
  lt : v < 10 ^ 21
  whole_or_decimal : (∃ n : ℕ, v = n) ∨ v < 2 ^ 53 ∧ ∃ count : ℕ, RoundsTo (count * 10 ^ (-places : ℤ)) v

theorem lt_limit {v : ℚ} (hv : v < 10 ^ 21) : v < limit := by
  refine hv.trans ?_
  rw [limit]
  exact_mod_cast (by decide +kernel : 10 ^ 21 < Nat.pow 2 1024)

theorem exists_isRounded {m : ℚ} (hm : IsMagnitude m) (hlt : m < 10 ^ 21) (places : ℕ) :
    ∃ v, IsRounded places v ∧ nearest (unitsInPlaces m places * 10 ^ (-places : ℤ)) = .finite v := by
  have hunit : (0 : ℚ) < 10 ^ (-places : ℤ) := by positivity
  have hcancel : ∀ n : ℕ, ((unitsInPlaces n places : ℕ) : ℚ) * 10 ^ (-places : ℤ) = n := by
    intro n
    rw [unitsInPlaces_natCast, zpow_neg, zpow_natCast]
    push_cast
    field_simp
  rcases lt_or_ge m (2 ^ 53) with hsmall | hlarge
  · have hle : (unitsInPlaces m places : ℚ) * 10 ^ (-places : ℤ) ≤ (2 ^ 53 : ℕ) := by
      have hunits := unitsInPlaces_mono hm.nonneg
        (show m ≤ (2 ^ 53 : ℕ) by exact_mod_cast hsmall.le) places
      rw [← hcancel (2 ^ 53)]
      gcongr
    rcases Nat.eq_zero_or_pos (unitsInPlaces m places) with hzero | hcount
    · refine ⟨0, ⟨le_rfl, by norm_num, .inl ⟨0, rfl⟩⟩, ?_⟩
      rw [hzero, Nat.cast_zero, zero_mul, nearest_zero]
    · have hpos : (0 : ℚ) < unitsInPlaces m places * 10 ^ (-places : ℤ) := by positivity
      obtain ⟨v, hround, hnearest⟩ := nearest_of_pos hpos
      have hv : v ≤ (2 ^ 53 : ℕ) :=
        hround.mono hpos hle (roundsTo_natCast (by decide) le_rfl)
      have hv' : v < 10 ^ 21 := hv.trans_lt (by norm_num)
      refine ⟨v, ⟨hround.isMagnitude.nonneg, hv', ?_⟩, hnearest.trans (if_neg (not_le.2 (lt_limit hv')))⟩
      rcases hv.lt_or_eq with hlt | heq
      · exact .inr ⟨by exact_mod_cast hlt, _, hround⟩
      · exact .inl ⟨_, heq⟩
  · obtain ⟨n, rfl⟩ := hm.exists_natCast hlarge
    have hpos : (0 : ℚ) < n := lt_of_lt_of_le (by norm_num) hlarge
    refine ⟨n, ⟨hm.nonneg, hlt, .inl ⟨n, rfl⟩⟩, ?_⟩
    rw [hcancel, nearest_eq_finite_iff hpos]
    exact ⟨hm.roundsTo_self hpos, lt_limit hlt⟩

/-! ### Numbers with a fraction -/

/-- The number that the millionth is read as. -/
def millionth : ℚ := mkRat 4722366482869645 (2 ^ 72)

theorem nearest_millionth : nearest (1 / 10 ^ 6) = .finite millionth := by decide +kernel

theorem roundsTo_millionth : RoundsTo (10 ^ (-6 : ℤ)) millionth := by
  have hpower : (10 : ℚ) ^ (-6 : ℤ) = 1 / 10 ^ 6 := by norm_num
  rw [hpower]
  exact ((nearest_eq_finite_iff (by norm_num)).1 nearest_millionth).1

theorem le_of_roundsTo {x v : ℚ} (hlarge : 2 ^ 53 ≤ x) (hround : RoundsTo x v) : 2 ^ 53 ≤ v := by
  have hself := roundsTo_natCast (n := 2 ^ 53) (by decide) le_rfl
  push_cast at hself
  exact hself.mono (by positivity) hlarge hround

theorem eq_natCast_of_roundsTo {n : ℕ} {v : ℚ} (hround : RoundsTo n v) (hsmall : v < 2 ^ 53) : v = n := by
  rcases Nat.eq_zero_or_pos n with rfl | hn
  · rw [Nat.cast_zero] at hround ⊢
    exact hround.eq_zero
  rcases le_or_gt n (2 ^ 53) with hle | hgt
  · exact hround.unique (by exact_mod_cast hn) (roundsTo_natCast hn hle)
  · exact absurd hsmall (not_lt.2 (le_of_roundsTo (by exact_mod_cast hgt.le) hround))

/-- The millionth is the first number whose shortest decimal is written without an exponent. -/
theorem millionth_le_iff {v : ℚ} (hv : IsPositive v) :
    millionth ≤ v ↔ -Decimal.mostZeros < (shortestDecimal v).point := by
  have hd := isShortest_shortestDecimal hv
  constructor
  · intro hle
    by_contra hpoint
    have hvalue : (shortestDecimal v).value ≤ 10 ^ (-6 : ℤ) :=
      hd.value_lt.le.trans (zpow_le_zpow_right₀ (by norm_num) (not_lt.1 hpoint))
    have hge : v ≤ millionth := hd.reads.mono (lt_of_lt_of_le (by positivity) hd.le_value) hvalue roundsTo_millionth
    obtain rfl := le_antisymm hge hle
    exact hpoint (by decide +kernel)
  · intro hpoint
    have hexponent : -6 ≤ (shortestDecimal v).point - 1 := by
      rw [Decimal.mostZeros] at hpoint
      omega
    have hvalue : (10 : ℚ) ^ (-6 : ℤ) ≤ (shortestDecimal v).value :=
      (zpow_le_zpow_right₀ (by norm_num) hexponent).trans hd.le_value
    exact roundsTo_millionth.mono (by positivity) hvalue hd.reads

/-- A number with a fraction has digits behind the point. -/
theorem point_lt_length {v : ℚ} {d : Decimal} (hd : IsShortest v d) (hsmall : v < 2 ^ 53)
    (hfraction : ∀ n : ℕ, v ≠ n) : d.point < d.digits.length := by
  by_contra hle
  obtain ⟨zeros, hzeros⟩ := Int.eq_ofNat_of_zero_le (sub_nonneg.2 (not_lt.1 hle))
  have hvalue : d.value = (d.digits.toNat * 10 ^ zeros : ℕ) := by
    rw [Decimal.value, hzeros, zpow_natCast]
    push_cast
    rfl
  have hround := hd.reads
  rw [hvalue] at hround
  exact hfraction _ (eq_natCast_of_roundsTo hround hsmall)

theorem point_le_longestWhole {v : ℚ} {d : Decimal} (hd : IsShortest v d) (hsmall : v < 2 ^ 53) :
    d.point ≤ Decimal.longestWhole := by
  by_contra hlt
  have hexponent : 21 ≤ d.point - 1 := by
    rw [Decimal.longestWhole] at hlt
    omega
  have hlarge : 2 ^ 53 ≤ d.value :=
    calc (2 : ℚ) ^ 53 ≤ 10 ^ (21 : ℤ) := by norm_num
      _ ≤ 10 ^ (d.point - 1) := zpow_le_zpow_right₀ (by norm_num) hexponent
      _ ≤ d.value := hd.le_value
  exact absurd hsmall (not_lt.2 (le_of_roundsTo hlarge hd.reads))

/-- The numbers that the powers of ten from one to the millionth are read as. -/
def tenthPowers : List ℚ :=
  [1, mkRat 3602879701896397 (2 ^ 55), mkRat 5764607523034235 (2 ^ 59), mkRat 1152921504606847 (2 ^ 60),
    mkRat 7378697629483821 (2 ^ 66), mkRat 5902958103587057 (2 ^ 69), millionth]

/-- The tenth, the hundredth and so on are written with as many places. -/
theorem length_sub_point_of_power {v : ℚ} {places : ℕ} (hplaces : places < 7)
    (hround : RoundsTo (10 ^ (-places : ℤ)) v) :
    (shortestDecimal v).digits.length - (shortestDecimal v).point = places := by
  have hall : ∀ places : ℕ, places < 7 → ∃ w ∈ tenthPowers, nearest (1 / 10 ^ places) = .finite w ∧
      (shortestDecimal w).digits.length - (shortestDecimal w).point = places := by
    decide +kernel
  have hpower : (10 : ℚ) ^ (-places : ℤ) = 1 / 10 ^ places := by rw [zpow_neg, zpow_natCast, one_div]
  rw [hpower] at hround
  obtain ⟨w, -, hnearest, hplace⟩ := hall places hplaces
  obtain rfl := hround.unique (by positivity) ((nearest_eq_finite_iff (by positivity)).1 hnearest).1
  exact hplace

/-- No more places are shown than a number was rounded to. -/
theorem length_sub_point_le {v : ℚ} (hv : IsPositive v) (hlarge : millionth ≤ v) {count places : ℕ}
    (hround : RoundsTo (count * 10 ^ (-places : ℤ)) v) :
    (shortestDecimal v).digits.length - (shortestDecimal v).point ≤ places := by
  rcases le_or_gt ((10 : ℚ) ^ (-places : ℤ)) v with hle | hgt
  · have hfewest := (isShortest_shortestDecimal hv).fewest count _ hle hround
    omega
  · -- only the unit itself is left, and the search begins below it
    have hcount := hround.count_pos hv.pos
    have hunit : RoundsTo (10 ^ (-places : ℤ)) v := by
      refine (hv.magnitude.roundsTo_self hv.pos).between hv.pos hgt.le ?_ hround
      exact le_mul_of_one_le_left (by positivity) (by exact_mod_cast hcount)
    have hplaces : places < 7 := by
      by_contra hge
      have hseven : (10 : ℚ) ^ (-places : ℤ) ≤ 10 ^ (-7 : ℤ) := zpow_le_zpow_right₀ (by norm_num) (by omega)
      have hlt : (10 : ℚ) ^ (-7 : ℤ) < millionth := by norm_num [millionth, Rat.mkRat_eq_div]
      linarith
    exact (length_sub_point_of_power hplaces hunit).le

/-! ### The text of a fraction -/

/-- The text of a number that was rounded: a whole one shows one zero behind the point. -/
def fractionText (x : Binary64) : Text := if x.isInteger then x.toFixed 1 else x.toText

theorem toFraction_eq (x : Binary64) (places : ℕ) :
    x.toFraction places = (x.roundTo (min places mostPlaces)).fractionText := rfl

theorem toFixed_eq {q : ℚ} (hlt : |q| < 10 ^ 21) (places : ℕ) : (finite q).toFixed places =
    if q < 0 then unit '-' :: placesText (unitsInPlaces |q| places) places
    else placesText (unitsInPlaces |q| places) places := by
  rw [toFixed, abs_eq, fixedLimit_eq, if_neg (not_le.2 hlt)]
  simp only [Rat.num_neg]

theorem toText_of_pos {v : ℚ} (hv : 0 < v) : (finite v).toText = (shortestDecimal v).toText := by
  have hnum : 0 < v.num := Rat.num_pos.2 hv
  rw [toText, if_neg hnum.ne', if_neg hnum.not_gt]

theorem toText_neg {v : ℚ} (hv : 0 < v) : (finite (-v)).toText = unit '-' :: (finite v).toText := by
  have hnum : -v.num < 0 := neg_neg_of_pos (Rat.num_pos.2 hv)
  rw [toText_of_pos hv, toText, Rat.num_neg_eq_neg_num, if_neg hnum.ne, if_pos hnum, neg_neg]

theorem fractionText_neg {v : ℚ} (hv : 0 < v) (hlt : v < 10 ^ 21) :
    (finite (-v)).fractionText = unit '-' :: (finite v).fractionText := by
  have habs : |v| = v := abs_of_pos hv
  rw [fractionText, fractionText, toText_neg hv, toFixed_eq (by rwa [abs_neg, habs]), toFixed_eq (by rwa [habs]),
    abs_neg, if_pos (neg_neg_of_pos hv), if_neg hv.not_gt]
  simp only [isInteger, Rat.den_neg_eq_den]
  exact (apply_ite (unit '-' :: ·) _ _ _).symm

theorem isInteger_iff {v : ℚ} (hv : 0 ≤ v) : (finite v).isInteger = true ↔ ∃ n : ℕ, v = n := by
  rw [isInteger, beq_iff_eq, Rat.den_eq_one_iff]
  constructor
  · intro hnum
    obtain ⟨n, hn⟩ := Int.eq_ofNat_of_zero_le (Rat.num_nonneg.2 hv)
    exact ⟨n, by rw [← hnum, hn, Int.cast_natCast]⟩
  · rintro ⟨n, rfl⟩
    rw [Rat.num_natCast, Int.cast_natCast]

theorem showsPoint_of_whole {n : ℕ} (hlt : (n : ℚ) < 10 ^ 21) : ShowsPoint 1 (finite n).fractionText := by
  have hnonneg : (0 : ℚ) ≤ n := n.cast_nonneg
  rw [fractionText, if_pos ((isInteger_iff hnonneg).2 ⟨n, rfl⟩), toFixed_eq (by rwa [Nat.abs_cast]),
    if_neg (not_lt.2 hnonneg)]
  exact showsPoint_placesText _ one_pos

theorem millionth_le_natCast (n : ℕ) : (n : ℚ) = 0 ∨ millionth ≤ n := by
  rcases Nat.eq_zero_or_pos n with rfl | hn
  · exact .inl Nat.cast_zero
  · have hle : millionth ≤ 1 := by norm_num [millionth, Rat.mkRat_eq_div]
    exact .inr (hle.trans (by exact_mod_cast hn))

namespace IsRounded

variable {places : ℕ} {v : ℚ} (h : IsRounded places v)
include h

theorem millionth_le (hplaces : places ≤ 6) : v = 0 ∨ millionth ≤ v := by
  rcases h.whole_or_decimal with ⟨n, rfl⟩ | ⟨-, count, hround⟩
  · exact millionth_le_natCast n
  rcases h.nonneg.eq_or_lt with hzero | hpos
  · exact .inl hzero.symm
  · have hcount := hround.count_pos hpos
    have hunit : (10 : ℚ) ^ (-6 : ℤ) ≤ 10 ^ (-places : ℤ) := zpow_le_zpow_right₀ (by norm_num) (by omega)
    have hle : (10 : ℚ) ^ (-6 : ℤ) ≤ count * 10 ^ (-places : ℤ) :=
      hunit.trans (le_mul_of_one_le_left (by positivity) (by exact_mod_cast hcount))
    exact .inr (roundsTo_millionth.mono (by positivity) hle hround)

theorem fractionText_of_fraction (hfraction : ∀ n : ℕ, v ≠ n) :
    (finite v).fractionText = (shortestDecimal v).toText ∧ IsPositive v ∧ v < 2 ^ 53 ∧
      ∃ count : ℕ, RoundsTo (count * 10 ^ (-places : ℤ)) v := by
  obtain ⟨hsmall, count, hround⟩ := h.whole_or_decimal.resolve_left fun ⟨n, hn⟩ => hfraction n hn
  have hpos : 0 < v := lt_of_le_of_ne h.nonneg fun hzero => hfraction 0 (by rw [← hzero, Nat.cast_zero])
  refine ⟨?_, ⟨hpos, hround.isMagnitude, lt_limit h.lt⟩, hsmall, count, hround⟩
  rw [fractionText, if_neg, toText_of_pos hpos]
  rw [isInteger_iff h.nonneg]
  exact fun ⟨n, hn⟩ => hfraction n hn

/-- From the millionth on a rounded number is written as a plain fraction. -/
theorem showsPoint (hlarge : v = 0 ∨ millionth ≤ v) : ShowsPoint (max places 1) (finite v).fractionText := by
  by_cases hwhole : ∃ n : ℕ, v = n
  · obtain ⟨n, rfl⟩ := hwhole
    exact (showsPoint_of_whole h.lt).mono (le_max_right _ _)
  · rw [not_exists] at hwhole
    obtain ⟨htext, hv, hsmall, count, hround⟩ := h.fractionText_of_fraction hwhole
    have hd := isShortest_shortestDecimal hv
    have hmillionth := hlarge.resolve_left hv.pos.ne'
    rw [htext]
    refine ShowsPoint.mono ?_ (le_max_left _ _)
    exact Decimal.showsPoint_toText hd.numeral ((millionth_le_iff hv).1 hmillionth)
      (point_le_longestWhole hd hsmall) (point_lt_length hd hsmall hwhole) (length_sub_point_le hv hmillionth hround)

/-- Below the millionth it is written with an exponent. -/
theorem mark_mem (hsmall : ¬(v = 0 ∨ millionth ≤ v)) : unit 'e' ∈ (finite v).fractionText := by
  have hfraction : ∀ n : ℕ, v ≠ n := by
    rintro n rfl
    exact hsmall (millionth_le_natCast n)
  obtain ⟨htext, hv, -⟩ := h.fractionText_of_fraction hfraction
  rw [not_or, millionth_le_iff hv] at hsmall
  rw [htext]
  exact Decimal.mark_mem_toText (not_lt.1 hsmall.2)

end IsRounded

theorem isMagnitude_abs {q : ℚ} (hq : nearest q = .finite q) : IsMagnitude |q| := by
  rcases lt_trichotomy q 0 with hneg | rfl | hpos
  · have hpos : 0 < -q := neg_pos.2 hneg
    rw [abs_of_neg hneg]
    refine ((nearest_eq_finite_iff hpos).1 ((nearest_neg_iff hpos).1 ?_)).1.isMagnitude
    rwa [neg_neg]
  · exact ⟨0, 0, by decide, by decide, by simp⟩
  · rw [abs_of_pos hpos]
    exact ((nearest_eq_finite_iff hpos).1 hq).1.isMagnitude

/-- A sign goes through the rounding and stands in front of the text. -/
theorem exists_rounded {q : ℚ} (hq : nearest q = .finite q) (hlt : |q| < 10 ^ 21) (places : ℕ) :
    ∃ v r, IsRounded places v ∧ |r| = v ∧ (finite q).roundTo places = .finite r ∧
      ((finite r).fractionText = (finite v).fractionText ∨
        (finite r).fractionText = unit '-' :: (finite v).fractionText) := by
  obtain ⟨v, hv, hnearest⟩ := exists_isRounded (isMagnitude_abs hq) hlt places
  rw [roundTo_eq hlt]
  split
  · refine ⟨v, -v, hv, by rw [abs_neg, abs_of_nonneg hv.nonneg], nearest_neg (by positivity) hnearest, ?_⟩
    rcases hv.nonneg.eq_or_lt with rfl | hpos
    · exact .inl (by rw [neg_zero])
    · exact .inr (fractionText_neg hpos hv.lt)
  · exact ⟨v, v, hv, abs_of_nonneg hv.nonneg, hnearest, .inl rfl⟩

/-- A number that is rounded to some places is written as a plain fraction, unless it is rounded to one that is
closer to zero than the millionth but not zero: that one is written with an exponent. -/
theorem fraction_is_plain_iff {q : ℚ} (hq : nearest q = .finite q) (hlt : |q| < 10 ^ 21) (places : ℕ) :
    ∃ r t, (finite q).roundTo (min places mostPlaces) = .finite r ∧ (finite q).fraction? places = .ok t ∧
      (IsPlainFraction (max places 1) t ↔ r = 0 ∨ millionth ≤ |r|) ∧
      (unit 'e' ∈ t ↔ ¬(r = 0 ∨ millionth ≤ |r|)) ∧
      (places ≤ 6 → IsPlainFraction (max places 1) t) := by
  obtain ⟨v, r, hv, habs, hround, htext⟩ := exists_rounded hq hlt (min places mostPlaces)
  have hfraction : (finite q).fraction? places = .ok (finite r).fractionText := by
    rw [fraction?, if_neg (by omega), Int.toNat_natCast, toFraction_eq, hround]
  have hcondition : r = 0 ∨ millionth ≤ |r| ↔ v = 0 ∨ millionth ≤ v := by rw [← abs_eq_zero, habs]
  have hplain : r = 0 ∨ millionth ≤ |r| → IsPlainFraction (max places 1) (finite r).fractionText := by
    intro hlarge
    have hpoint : ShowsPoint (max places 1) (finite v).fractionText :=
      (hv.showsPoint (hcondition.1 hlarge)).mono (by omega)
    rcases htext with htext | htext
    · exact htext ▸ .unsigned hpoint
    · exact htext ▸ .signed hpoint
  have hmark : ¬(r = 0 ∨ millionth ≤ |r|) → unit 'e' ∈ (finite r).fractionText := by
    intro hsmall
    have hmem := hv.mark_mem (mt hcondition.2 hsmall)
    rcases htext with htext | htext
    · exact htext ▸ hmem
    · exact htext ▸ List.mem_cons_of_mem _ hmem
  refine ⟨r, _, hround, hfraction, ⟨fun h => ?_, hplain⟩, ⟨fun hmem hlarge => ?_, hmark⟩, fun hplaces => ?_⟩
  · by_contra hsmall
    exact h.mark_notMem (hmark hsmall)
  · exact (hplain hlarge).mark_notMem hmem
  · exact hplain (hcondition.2 (hv.millionth_le (by omega)))

/-- A number below the millionth that is rounded up to it. -/
theorem rounded_up_to_millionth_is_plain :
    let q : ℚ := mkRat (-4722319259204817) (2 ^ 72)
    nearest (-99999 / 10 ^ 11) = .finite q ∧ nearest q = .finite q ∧ |q| < 10 ^ 21 ∧ |q| < millionth ∧
      (finite q).roundTo 9 = .finite (-millionth) ∧ (finite q).fraction? 9 = .ok (text "-0.000001") ∧
      IsPlainFraction 9 (text "-0.000001") := by
  intro q
  have hq : nearest q = .finite q := by decide +kernel
  have hlt : |q| < 10 ^ 21 := by decide +kernel
  have hround : (finite q).roundTo 9 = .finite (-millionth) := by decide +kernel
  have hfraction : (finite q).fraction? 9 = .ok (text "-0.000001") := by decide +kernel
  obtain ⟨r, t, hr, ht, hplain, -⟩ := fraction_is_plain_iff hq hlt 9
  obtain rfl := finite.inj (hr.symm.trans hround)
  obtain rfl := Except.ok.inj (ht.symm.trans hfraction)
  refine ⟨by decide +kernel, hq, hlt, by decide +kernel, hround, hfraction, hplain.2 (.inr ?_)⟩
  exact (abs_neg millionth ▸ le_abs_self millionth)

/-- The ten-millionth has an exponent, also if it is rounded to the places that it has. -/
theorem ten_millionth_has_exponent :
    let q : ℚ := mkRat 944473296573929 (2 ^ 73)
    let item : Item := ⟨text "a", [], .ofList [], false, 1, 1, 0, 0, ⟨none, 10000000, 1⟩⟩
    nearest (1 / 10 ^ 7) = .finite q ∧ nearest q = .finite q ∧ |q| < 10 ^ 21 ∧
      (finite q).fraction? 7 = .ok (text "1e-7") ∧ ¬IsPlainFraction (max 7 1) (text "1e-7") ∧
      (Pattern.read .builtin (text "[attributes, %w, %pc7]")).render .builtin [item] {} none
        = .ok [text "1e-7"] := by
  refine ⟨by decide +kernel, by decide +kernel, by decide +kernel, by decide +kernel, fun h => ?_, by decide +kernel⟩
  exact h.mark_notMem (by decide)

end Binary64

end NamePattern
