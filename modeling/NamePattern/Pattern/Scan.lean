import NamePattern.Pattern.Bracket

/-!
A pattern cut into literal text and bracketed groups. Outside a group a doubled bracket is a literal
one. A group opens at a single bracket and ends at its matching one; inside it a bracket opens a
nested stretch, and only within such a stretch are doubled brackets passed over. A group that is
never closed is literal text to the end of the pattern, and so is a closing bracket on its own.
-/

namespace NamePattern

/-- A closed bracketed group: the text between its brackets and the index of the opening one. -/
structure Group where
  source : Text
  start : Nat
  deriving DecidableEq

/-- The index of the closing bracket of a group. -/
def Group.stop (g : Group) : Nat := g.start + g.source.length + 1

/-- The group as it stands in the pattern. -/
def Group.written (g : Group) : Text := bracketed g.source

/-- A stretch of a pattern: literal text with doubled brackets made single, or a group. -/
inductive Piece
  | literal (content : Text)
  | group (g : Group)
  deriving DecidableEq

/-- Adds a prefix to the first part of a split. -/
def prependToSplit (t : Text) (split : Option (Text × Text)) : Option (Text × Text) :=
  split.map fun (before, after) => (t ++ before, after)

/-- The rest of a group's source and the text after its closing bracket, where `nesting` stretches
are open inside the group; nothing if the group is never closed. -/
def groupEnd (nesting : Nat) : Text → Option (Text × Text)
  | [] => none
  | [u] => if u = closeBracket && nesting = 0 then some ([], []) else none
  | u :: v :: rest =>
    if u = openBracket then
      if nesting ≠ 0 && v = openBracket then prependToSplit [u, v] (groupEnd nesting rest)
      else prependToSplit [u] (groupEnd (nesting + 1) (v :: rest))
    else if u = closeBracket then
      if nesting = 0 then some ([], v :: rest)
      else if v = closeBracket then prependToSplit [u, v] (groupEnd nesting rest)
      else prependToSplit [u] (groupEnd (nesting - 1) (v :: rest))
    else prependToSplit [u] (groupEnd nesting (v :: rest))

theorem prependToSplit_eq_some {t before after : Text} {split : Option (Text × Text)} :
    prependToSplit t split = some (before, after) ↔
      ∃ more, split = some (more, after) ∧ before = t ++ more := by
  cases split with
  | none => simp [prependToSplit]
  | some s =>
    obtain ⟨more, rest⟩ := s
    simp only [prependToSplit, Option.map_some, Option.some.injEq, Prod.mk.injEq]
    constructor
    · rintro ⟨rfl, rfl⟩
      exact ⟨more, ⟨rfl, rfl⟩, rfl⟩
    · rintro ⟨_, ⟨rfl, rfl⟩, rfl⟩
      exact ⟨rfl, rfl⟩

/-- A group's source, its closing bracket and the rest make up the text after the opening one. -/
theorem eq_of_groupEnd {nesting : Nat} {t before after : Text}
    (h : groupEnd nesting t = some (before, after)) : t = before ++ closeBracket :: after := by
  fun_induction groupEnd nesting t generalizing before after with
  | case1 | case3 => simp at h
  | case2 nesting u hu => simp_all
  | case6 v rest hv => simp_all
  | case4 _ _ _ _ ih | case5 _ _ _ _ ih | case7 _ _ _ _ ih | case8 _ _ _ _ _ _ ih
  | case9 _ _ _ _ _ _ ih =>
    obtain ⟨more, hmore, rfl⟩ := prependToSplit_eq_some.1 h
    simp [ih hmore]

/-- What follows a group is shorter than what follows its opening bracket. -/
theorem length_lt_of_groupEnd {nesting : Nat} {t before after : Text}
    (h : groupEnd nesting t = some (before, after)) : after.length < t.length := by
  simp only [eq_of_groupEnd h, List.length_append, List.length_cons]
  omega

namespace Piece

/-- Puts literal text in front of some pieces, as part of the first one if that is literal too. -/
def prependLiteral (t : Text) : List Piece → List Piece
  | .literal s :: rest => .literal (t ++ s) :: rest
  | pieces => .literal t :: pieces

/-- The pieces of a stretch of a pattern that begins at index `start`, outside every group. -/
def scanFrom (start : Nat) (t : Text) : List Piece :=
  match t with
  | [] => []
  | [u] => [.literal [u]]
  | u :: v :: rest =>
    if isBracket u && v = u then prependLiteral [u] (scanFrom (start + 2) rest)
    else if u = openBracket then
      match h : groupEnd 0 (v :: rest) with
      | none => [.literal (u :: v :: rest)]
      | some (source, after) =>
        .group ⟨source, start⟩ :: scanFrom (start + source.length + 2) after
    else prependLiteral [u] (scanFrom (start + 1) (v :: rest))
  termination_by t.length
  decreasing_by
  · simp only [List.length_cons]
    omega
  · have shorter := length_lt_of_groupEnd h
    simp only [List.length_cons] at shorter ⊢
    omega
  · simp

/-- The pieces of a pattern. No two literal pieces are neighbours, and none is empty. -/
def scan (t : Text) : List Piece := scanFrom 0 t

/-- The groups among some pieces. -/
def groups (pieces : List Piece) : List Group :=
  pieces.filterMap fun
    | .literal _ => none
    | .group g => some g

end Piece

end NamePattern
