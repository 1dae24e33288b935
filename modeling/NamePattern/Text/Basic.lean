/-!
Text as a sequence of UTF-16 code units. Every index and every length of this library counts these
units, so that a character outside the basic plane counts two and may be cut in half by a regular
expression; a `String` appears only where text enters or leaves.
-/

namespace NamePattern

/-- One unit of the UTF-16 encoding form. -/
abbrev CodeUnit := UInt16

/-- A sequence of UTF-16 code units, well formed or not. -/
abbrev Text := List CodeUnit

/-- The code unit of a character of the basic plane. -/
def unit (c : Char) : CodeUnit := UInt16.ofNat c.toNat

/-- The first half of the pair that stands for a code point from U+10000 on. -/
def leadSurrogate (point : Nat) : CodeUnit := UInt16.ofNat (0xD800 + (point - 0x10000) / 0x400)

/-- The second half of the pair that stands for a code point from U+10000 on. -/
def trailSurrogate (point : Nat) : CodeUnit := UInt16.ofNat (0xDC00 + (point - 0x10000) % 0x400)

/-- Whether a unit can only be the first half of a pair. -/
def isLead (u : CodeUnit) : Bool := 0xD800 ≤ u && u ≤ 0xDBFF

/-- Whether a unit can only be the second half of a pair. -/
def isTrail (u : CodeUnit) : Bool := 0xDC00 ≤ u && u ≤ 0xDFFF

/-- The code point that a pair of surrogates stands for. -/
def joinSurrogates (lead trail : CodeUnit) : Nat :=
  0x10000 + (lead.toNat - 0xD800) * 0x400 + (trail.toNat - 0xDC00)

/-- The units of one code point: itself below U+10000, else a pair of surrogates. -/
def unitsOfPoint (point : Nat) : Text :=
  if point < 0x10000 then [UInt16.ofNat point] else [leadSurrogate point, trailSurrogate point]

/-- The text that a string spells. -/
def text (s : String) : Text := s.toList.flatMap fun c => unitsOfPoint c.toNat

namespace Text

/-- The code points of a text. A surrogate without its partner counts as a point of its own. -/
def points : Text → List Nat
  | [] => []
  | [u] => [u.toNat]
  | u :: v :: rest =>
    if isLead u && isTrail v then joinSurrogates u v :: points rest
    else u.toNat :: points (v :: rest)

/-- The text of a list of code points. -/
def ofPoints (ps : List Nat) : Text := ps.flatMap unitsOfPoint

/-- The string of a text; a surrogate without its partner becomes U+FFFD. -/
def toString (t : Text) : String :=
  String.ofList (t.points.map fun p => if p.isValidChar then Char.ofNat p else Char.ofNat 0xFFFD)

/-- Whether `part` occurs somewhere in a text. -/
def includes (part : Text) : Text → Bool
  | [] => part.isEmpty
  | u :: rest => part.isPrefixOf (u :: rest) || includes part rest

/-- The part of a text before its first `u`, and the part after it if there is one. -/
def cutAt (u : CodeUnit) : Text → Text × Option Text
  | [] => ([], none)
  | v :: rest =>
    if v = u then ([], some rest)
    else
      let (before, after) := cutAt u rest
      (v :: before, after)

/-- Cutting a text after a unit leaves less of it. -/
theorem length_after_cut {u : CodeUnit} {t before after : Text}
    (h : t.cutAt u = (before, some after)) : after.length < t.length := by
  induction t generalizing before with
  | nil => simp [cutAt] at h
  | cons v rest ih =>
    rw [cutAt] at h
    split at h
    · simp_all
    · cases hrest : cutAt u rest with
      | mk first last =>
        simp only [hrest, Prod.mk.injEq] at h
        have shorter := ih (hrest.trans (by rw [h.2]))
        simp only [List.length_cons]
        omega

/-- Texts joined with a separator between them. -/
def joined (separator : Text) (parts : List Text) : Text := (parts.intersperse separator).flatten

/-- Each pair of equal `u` units, taken from the left, becomes a single one. -/
def undouble (u : CodeUnit) : Text → Text
  | [] => []
  | [v] => [v]
  | v :: w :: rest =>
    if v = u && w = u then u :: undouble u rest else v :: undouble u (w :: rest)

/-- Each `u` becomes two. -/
def double (u : CodeUnit) (t : Text) : Text := t.flatMap fun v => if v = u then [u, u] else [v]

/-- A text made at least `width` units long by putting `fill` in front. -/
def padStart (width : Nat) (fill : CodeUnit) (t : Text) : Text :=
  List.replicate (width - t.length) fill ++ t

end Text

end NamePattern
