import Mathlib.Data.List.Pairwise
import Mathlib.Data.Rat.Cast.Order
import NamePattern.Proofs.Pattern.Account
import NamePattern.Render

/-!
The field at a position. A position lies in one group of a pattern at most, since each group ends before
the next one begins, so the first group found around it is the only one. It is the group of a field
wherever its name is known. No group is around a position at depth zero, such as that of a doubled
bracket outside every group, nor around one behind a bracket that opens a group which is never closed.
-/

namespace NamePattern

/-- A group holds the indices behind its opening bracket, up to and with that of its closing one. -/
def Group.Holds (g : Group) (i : Int) : Prop := g.start + 1 ≤ i ∧ i ≤ g.stop

/-- One of two groups ends before the other begins. -/
def Group.Apart (a b : Group) : Prop := a.stop < b.start ∨ b.stop < a.start

instance : Std.Symm Group.Apart := ⟨fun _ _ => Or.symm⟩

/-- The bracket at an index opens a group that no bracket behind it closes. -/
structure OpensUnclosed (p : Text) (start : Nat) : Prop where
  opening : p[start]? = some openBracket
  outside : depthAt p start = some 0
  unclosed : ∀ i, start < i → p[i]? = some closeBracket → depthAt p i ≠ some 1

theorem Group.isAround_iff (g : Group) (i : Int) :
    g.isAround (.finite i) = true ↔ g.Holds i := by
  have hle : ∀ n : Nat, ((n : Rat) ≤ (i : Rat) ↔ (n : Int) ≤ i) ∧ ((i : Rat) ≤ n ↔ i ≤ n) :=
    fun n => ⟨by exact_mod_cast Iff.rfl, by exact_mod_cast Iff.rfl⟩
  rw [isAround, Binary64.le, Binary64.le, Bool.and_eq_true, decide_eq_true_iff, decide_eq_true_iff,
    (hle _).1, (hle _).2]
  rfl

/-! ### Groups around a position -/

namespace Group.StandsIn
variable {p : Text} {g other : Group} {i : Int}

theorem apart_of_ne (hg : g.StandsIn p) (ho : other.StandsIn p) (hne : g ≠ other) :
    g.Apart other := by
  have hapart : (Piece.groups (Piece.scan p)).Pairwise Group.Apart :=
    (Piece.groups_ordered 0 p).2.imp Or.inl
  exact hapart.forall (Piece.mem_groups_scan.2 hg) (Piece.mem_groups_scan.2 ho) hne

/-- No two groups of a pattern hold the same index. -/
theorem eq_of_holds (hg : g.StandsIn p) (ho : other.StandsIn p) (h : g.Holds i)
    (hother : other.Holds i) : g = other := by
  obtain ⟨hstart, hstop⟩ := h
  obtain ⟨hstart', hstop'⟩ := hother
  by_contra hne
  rcases hg.apart_of_ne ho hne with hbefore | hafter
  · omega
  · omega

/-- What a group holds is a unit of the pattern behind its opening bracket, at depth one or more. -/
theorem exists_of_holds (hg : g.StandsIn p) (h : g.Holds i) :
    ∃ k : Nat, i = k ∧ g.start < k ∧ k ≤ g.stop ∧ k < p.length ∧ depthAt p k ≠ some 0 := by
  obtain ⟨hstart, hstop⟩ := h
  have hlt := hg.stop_lt
  obtain ⟨k, rfl⟩ := Int.eq_ofNat_of_zero_le (by omega : 0 ≤ i)
  exact ⟨k, rfl, by omega, by omega, by omega, hg.inside k (by omega) (by omega)⟩

end Group.StandsIn

section
variable {p : Text} {i : Int}

theorem nameAt_eq_none :
    Pattern.nameAt? p (.finite i) = none ↔ ∀ g : Group, g.StandsIn p → ¬ g.Holds i := by
  rw [Pattern.nameAt?, Option.map_eq_none_iff, List.find?_eq_none]
  exact forall_congr' fun g => by rw [Piece.mem_groups_scan, g.isAround_iff]

/-- The group that holds an index is found, as there is no other. -/
theorem nameAt_of_holds {g : Group} (hg : g.StandsIn p) (h : g.Holds i) :
    Pattern.nameAt? p (.finite i) = some (Call.ofSource g.source).name := by
  rw [Pattern.nameAt?]
  cases hfind : (Piece.groups (Piece.scan p)).find? fun g => g.isAround (.finite i) with
  | none =>
    have hnone := List.find?_eq_none.1 hfind g (Piece.mem_groups_scan.2 hg)
    exact absurd ((g.isAround_iff i).2 h) hnone
  | some found =>
    have hfound := Piece.mem_groups_scan.1 (List.mem_of_find?_eq_some hfind)
    have haround := List.find?_some (p := fun g : Group => g.isAround (.finite i)) hfind
    have hholds := (found.isAround_iff i).1 haround
    rw [hg.eq_of_holds hfound h hholds]
    rfl

theorem field_mem_read {registry : Registry} {call : Call} {g : Group} :
    .field call g ∈ (Pattern.read registry p).segments ↔
      g.StandsIn p ∧ call = Call.ofSource g.source ∧ registry.knows call.name = true := by
  rw [← Piece.mem_groups_scan]
  exact Segment.field_mem_foldr registry.knows

/-! ### Positions outside every group -/

theorem nameAt_of_not_index (h : i < 0 ∨ p.length ≤ i) : Pattern.nameAt? p (.finite i) = none := by
  refine nameAt_eq_none.2 fun g hg hholds => ?_
  obtain ⟨k, rfl, -, -, hk, -⟩ := hg.exists_of_holds hholds
  omega

theorem nameAt_of_depth_zero {k : Nat} (h : depthAt p k = some 0) :
    Pattern.nameAt? p (.finite (k : Int)) = none := by
  refine nameAt_eq_none.2 fun g hg hholds => ?_
  obtain ⟨j, hj, -, -, -, hdepth⟩ := hg.exists_of_holds hholds
  obtain rfl : k = j := by omega
  exact hdepth h

/-- A group around a position behind the bracket would be closed behind it too. -/
theorem nameAt_of_unclosed {start : Nat} (h : OpensUnclosed p start) (hi : start < i) :
    Pattern.nameAt? p (.finite i) = none := by
  refine nameAt_eq_none.2 fun g hg hholds => ?_
  have hstop := hholds.2
  exact h.unclosed g.stop (by omega) hg.closing hg.matching

end

/-- A position in a field has the name of that field, and where all names are known a position without
a name is in no field. One group at most holds a position, and none holds one before the pattern, beyond
it, at depth zero or in a group that is never closed. -/
theorem position_tells_field (p : Text) (i : Int) :
    (∀ (registry : Registry) call g, .field call g ∈ (Pattern.read registry p).segments →
        g.Holds i → Pattern.nameAt? p (.finite i) = some call.name) ∧
      (∀ registry : Registry,
        (∀ g : Group, g.StandsIn p → registry.knows (Call.ofSource g.source).name = true) →
        (Pattern.nameAt? p (.finite i) = none ↔
          ∀ call g, .field call g ∈ (Pattern.read registry p).segments → ¬ g.Holds i)) ∧
      (∀ g other : Group, g.StandsIn p → other.StandsIn p → g.Holds i → other.Holds i →
        g = other) ∧
      (i < 0 ∨ p.length ≤ i → Pattern.nameAt? p (.finite i) = none) ∧
      (∀ k : Nat, i = k → depthAt p k = some 0 → Pattern.nameAt? p (.finite i) = none) ∧
      ∀ start : Nat, OpensUnclosed p start → start < i → Pattern.nameAt? p (.finite i) = none := by
  refine ⟨fun registry call g hfield h => ?_, fun registry hknown => ?_,
    fun g other hg ho h hother => hg.eq_of_holds ho h hother, nameAt_of_not_index, ?_,
    fun start h hi => nameAt_of_unclosed h hi⟩
  · obtain ⟨hg, rfl, -⟩ := field_mem_read.1 hfield
    exact nameAt_of_holds hg h
  · rw [nameAt_eq_none]
    constructor
    · intro hnone call g hfield
      exact hnone g (field_mem_read.1 hfield).1
    · intro hnone g hg
      exact hnone _ g (field_mem_read.2 ⟨hg, rfl, hknown g hg⟩)
  · rintro k rfl h
    exact nameAt_of_depth_zero h

/-- A field after a doubled bracket and before a group that is never closed. -/
theorem only_positions_in_field_have_name :
    let p := text "[[_[layer name, [%e] ]_[b"
    let field : Group := ⟨text "layer name, [%e] ", 3⟩
    let nameAt := fun i : Int => Pattern.nameAt? p (.finite i)
    field.StandsIn p ∧ depthAt p 1 = some 0 ∧ OpensUnclosed p 23 ∧
      nameAt 21 = some (text "layer name") ∧
      (∀ g : Group, g.StandsIn p → g.Holds 21 → g = field) ∧
      (∀ call g, .field call g ∈ (Pattern.read .builtin p).segments → ¬ g.Holds 22) ∧
      nameAt 1 = none ∧ nameAt 24 = none ∧ nameAt 25 = none ∧ nameAt (-1) = none := by
  intro p field nameAt
  have hgroups : Piece.groups (Piece.scan p) = [field] := by decide +kernel
  have hstands : ∀ g : Group, g.StandsIn p ↔ g = field := by
    intro g
    rw [← Piece.mem_groups_scan, hgroups, List.mem_singleton]
  have hfield : field.StandsIn p := (hstands field).2 rfl
  have hknown : ∀ g : Group, g.StandsIn p →
      Registry.builtin.knows (Call.ofSource g.source).name = true := by
    intro g hg
    rw [(hstands g).1 hg]
    decide +kernel
  have hdepth : depthAt p 1 = some 0 := by decide +kernel
  have hunclosed : OpensUnclosed p 23 := by
    refine ⟨by decide +kernel, by decide +kernel, fun i hi hclose => ?_⟩
    have hlt := (List.getElem?_eq_some_iff.1 hclose).1
    have hlength : p.length = 25 := by decide +kernel
    obtain rfl : i = 24 := by omega
    revert hclose
    decide +kernel
  have hcall : .field ⟨text "layer name", [text " [%e] "]⟩ field
      ∈ (Pattern.read .builtin p).segments := by
    decide +kernel
  have hholds : field.Holds 21 := by
    rw [← Group.isAround_iff]
    decide +kernel
  obtain ⟨hname, -, hunique, -, -, -⟩ := position_tells_field p 21
  obtain ⟨-, hnone, -, -, -, -⟩ := position_tells_field p 22
  obtain ⟨-, -, -, -, hzero, -⟩ := position_tells_field p 1
  obtain ⟨-, -, -, -, -, hbehind⟩ := position_tells_field p 24
  obtain ⟨-, -, -, hbeyond, -, -⟩ := position_tells_field p 25
  obtain ⟨-, -, -, hbefore, -, -⟩ := position_tells_field p (-1)
  refine ⟨hfield, hdepth, hunclosed, hname .builtin _ field hcall hholds, ?_, ?_,
    hzero 1 rfl hdepth, hbehind 23 hunclosed (by decide), hbeyond (.inr (by decide +kernel)),
    hbefore (.inl (by decide))⟩
  · exact fun g hg h => hunique g field hg hfield h hholds
  · exact (hnone .builtin hknown).1 (by decide +kernel)

end NamePattern
