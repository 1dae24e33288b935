import NamePattern.Pattern.Segment
import NamePattern.Proofs.Pattern.Enclosed

/-!
The scan of a pattern and its segments, one stretch at a time: a doubled bracket, a unit on its own, a
closed group, or a group that is never closed. `scan_induction` is the induction along these stretches;
`segmentsFrom` gives the segments of what is left of a pattern, with one equation for each stretch.
-/

namespace NamePattern

namespace Piece

theorem scanFrom_nil (start : Nat) : scanFrom start [] = [] := by rw [scanFrom]

theorem scanFrom_doubled {u : CodeUnit} (hu : isBracket u = true) (start : Nat) (t : Text) :
    scanFrom start (u :: u :: t) = prependLiteral [u] (scanFrom (start + 2) t) := by
  rw [scanFrom]
  simp [hu]

/-- A unit that neither opens a group nor is the first of a doubled bracket. -/
theorem scanFrom_single {u : CodeUnit} {t : Text} (ho : u ≠ openBracket)
    (hd : isBracket u = true → t.head? ≠ some u) (start : Nat) :
    scanFrom start (u :: t) = prependLiteral [u] (scanFrom (start + 1) t) := by
  cases t with
  | nil => rw [scanFrom_nil, scanFrom]; rfl
  | cons v rest =>
    have hv : ¬ (isBracket u && decide (v = u)) = true := by
      intro h
      simp only [Bool.and_eq_true, decide_eq_true_eq] at h
      exact hd h.1 (by simp [h.2])
    rw [scanFrom, if_neg hv, if_neg ho]

theorem scanFrom_group {t source after : Text} (hd : t.head? ≠ some openBracket)
    (h : groupEnd 0 t = some (source, after)) (start : Nat) :
    scanFrom start (openBracket :: t)
      = .group ⟨source, start⟩ :: scanFrom (start + source.length + 2) after := by
  cases t with
  | nil => simp [groupEnd] at h
  | cons v rest =>
    have hv : ¬ (isBracket openBracket && decide (v = openBracket)) = true := by
      simpa [isBracket_openBracket] using hd
    rw [scanFrom, if_neg hv, if_pos rfl]
    split
    · next hnone => rw [h] at hnone; cases hnone
    · next found left hsome =>
      rw [h] at hsome
      simp only [Option.some.injEq, Prod.mk.injEq] at hsome
      obtain ⟨rfl, rfl⟩ := hsome
      rfl

theorem scanFrom_unclosed {t : Text} (hd : t.head? ≠ some openBracket) (h : groupEnd 0 t = none)
    (start : Nat) : scanFrom start (openBracket :: t) = [.literal (openBracket :: t)] := by
  cases t with
  | nil => rw [scanFrom]
  | cons v rest =>
    have hv : ¬ (isBracket openBracket && decide (v = openBracket)) = true := by
      simpa [isBracket_openBracket] using hd
    rw [scanFrom, if_neg hv, if_pos rfl]
    split
    · rfl
    · next found left hsome => rw [h] at hsome; cases hsome

/-- Induction along the stretches of a pattern, where `start` is the index at which the rest begins. -/
theorem scan_induction {motive : Nat → Text → Prop}
    (nil : ∀ start, motive start [])
    (doubled : ∀ start u t, isBracket u = true → motive (start + 2) t → motive start (u :: u :: t))
    (single : ∀ start u t, u ≠ openBracket → (isBracket u = true → t.head? ≠ some u) →
      motive (start + 1) t → motive start (u :: t))
    (group : ∀ start t source after, t.head? ≠ some openBracket →
      groupEnd 0 t = some (source, after) → motive (start + source.length + 2) after →
      motive start (openBracket :: t))
    (unclosed : ∀ start t, t.head? ≠ some openBracket → groupEnd 0 t = none →
      motive start (openBracket :: t)) (start : Nat) (t : Text) : motive start t := by
  -- a group takes many units at once, so the induction is on the length
  induction h : t.length using Nat.strongRecOn generalizing start t with
  | ind length ih =>
    subst h
    have shorter : ∀ m s, s.length < t.length → motive m s := fun m s hs => ih s.length hs m s rfl
    rcases t with _ | ⟨u, rest⟩
    · exact nil start
    by_cases hd : isBracket u = true ∧ rest.head? = some u
    · obtain ⟨more, rfl⟩ := List.head?_eq_some_iff.1 hd.2
      exact doubled start u more hd.1 (shorter _ more (by simp only [List.length_cons]; omega))
    by_cases ho : u = openBracket
    · subst ho
      have hd' : rest.head? ≠ some openBracket := fun hr => hd ⟨isBracket_openBracket, hr⟩
      cases hend : groupEnd 0 rest with
      | none => exact unclosed start rest hd' hend
      | some split =>
        obtain ⟨source, after⟩ := split
        have hlen := length_lt_of_groupEnd hend
        exact group start rest source after hd' hend
          (shorter _ after (by simp only [List.length_cons]; omega))
    · exact single start u rest ho (fun hu hr => hd ⟨hu, hr⟩) (shorter _ rest (by simp))

end Piece

/-! ### Segments -/

namespace Segment

theorem prependLiteral_append (s t : Text) (segments : List Segment) :
    prependLiteral s (prependLiteral t segments) = prependLiteral (s ++ t) segments := by
  rcases segments with _ | ⟨_ | _, _⟩ <;> simp [prependLiteral]

theorem prependPiece_known {known : Text → Bool} {g : Group}
    (hk : known (Call.ofSource g.source).name = true) (segments : List Segment) :
    prependPiece known (.group g) segments = .field (Call.ofSource g.source) g :: segments :=
  if_pos hk

theorem prependPiece_unknown {known : Text → Bool} {g : Group}
    (hk : known (Call.ofSource g.source).name = false) (segments : List Segment) :
    prependPiece known (.group g) segments = prependLiteral g.written segments :=
  if_neg (by simp [hk])

/-- Literal text put in front of the pieces ends up in front of the segments. -/
theorem foldr_prependLiteral (known : Text → Bool) (t : Text) (pieces : List Piece) :
    (Piece.prependLiteral t pieces).foldr (prependPiece known) []
      = prependLiteral t (pieces.foldr (prependPiece known) []) := by
  rcases pieces with _ | ⟨s | g, rest⟩
  · rfl
  · simp only [Piece.prependLiteral, List.foldr_cons, prependPiece, prependLiteral_append]
  · rfl

end Segment

/-- The segments of what is left of a pattern at index `start`, outside every group. -/
def segmentsFrom (known : Text → Bool) (start : Nat) (t : Text) : List Segment :=
  (Piece.scanFrom start t).foldr (Segment.prependPiece known) []

theorem segments_ofText (known : Text → Bool) (p : Text) :
    (Pattern.ofText known p).segments = segmentsFrom known 0 p := rfl

section
variable (known : Text → Bool) (start : Nat)

theorem segmentsFrom_nil : segmentsFrom known start [] = [] := by
  rw [segmentsFrom, Piece.scanFrom_nil]; rfl

theorem segmentsFrom_doubled {u : CodeUnit} (hu : isBracket u = true) (t : Text) :
    segmentsFrom known start (u :: u :: t)
      = Segment.prependLiteral [u] (segmentsFrom known (start + 2) t) := by
  rw [segmentsFrom, Piece.scanFrom_doubled hu, Segment.foldr_prependLiteral]; rfl

theorem segmentsFrom_single {u : CodeUnit} {t : Text} (ho : u ≠ openBracket)
    (hd : isBracket u = true → t.head? ≠ some u) :
    segmentsFrom known start (u :: t)
      = Segment.prependLiteral [u] (segmentsFrom known (start + 1) t) := by
  rw [segmentsFrom, Piece.scanFrom_single ho hd, Segment.foldr_prependLiteral]; rfl

theorem segmentsFrom_group {t source after : Text} (hd : t.head? ≠ some openBracket)
    (h : groupEnd 0 t = some (source, after)) :
    segmentsFrom known start (openBracket :: t)
      = Segment.prependPiece known (.group ⟨source, start⟩)
          (segmentsFrom known (start + source.length + 2) after) := by
  rw [segmentsFrom, Piece.scanFrom_group hd h]; rfl

theorem segmentsFrom_unclosed {t : Text} (hd : t.head? ≠ some openBracket)
    (h : groupEnd 0 t = none) :
    segmentsFrom known start (openBracket :: t) = [.literal (openBracket :: t)] := by
  rw [segmentsFrom, Piece.scanFrom_unclosed hd h]; rfl

/-- A group with nothing after it. -/
theorem segmentsFrom_bracketed {source : Text} (hd : source.head? ≠ some openBracket)
    (h : Enclosed 0 source) :
    segmentsFrom known start (bracketed source)
      = Segment.prependPiece known (.group ⟨source, start⟩) [] := by
  rw [bracketed, segmentsFrom_group known start (head_append_close hd []) (groupEnd_of_enclosed h []),
    segmentsFrom_nil]

/-- The group of a known call in front of a pattern is a field in front of its segments. -/
theorem segmentsFrom_call {source : Text} (hd : source.head? ≠ some openBracket)
    (h : Enclosed 0 source) (hknown : known (Call.ofSource source).name = true) (rest : Text) :
    segmentsFrom known start (bracketed source ++ rest)
      = .field (Call.ofSource source) ⟨source, start⟩ ::
          segmentsFrom known (start + (bracketed source).length) rest := by
  have hlength : start + source.length + 2 = start + (bracketed source).length := by
    simp only [bracketed, List.length_cons, List.length_append, List.length_nil]
    omega
  rw [bracketed, List.cons_append, List.append_assoc, List.singleton_append,
    segmentsFrom_group known start (head_append_close hd rest) (groupEnd_of_enclosed h rest),
    Segment.prependPiece_known (g := ⟨source, start⟩) hknown, hlength]
  rfl

end

end NamePattern
