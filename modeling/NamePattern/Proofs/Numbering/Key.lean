import NamePattern.Proofs.Evaluation.Frame
import NamePattern.Proofs.Json.Quoted
import NamePattern.Proofs.Pattern.Argument

/-!
What counters are known by. A path is written as JSON, so its key tells the path, and the scope that all
items share has a key that no path has. Digits hold no zero unit, so the key of a counter tells its
digits and its scope.
-/

namespace NamePattern

/-- What a counter is known by: digits, and the path of a scope. Without a path it is the scope that
all items share. -/
structure NumberKey where
  digits : Text
  path : Option (List Text)
  deriving DecidableEq

/-- The key of the scope of a path. -/
def pathKey (path : List Text) : Text := (Json.array (path.map .string)).toText

/-- The path of the scope in which an item is numbered; none if all items share it. -/
def scopePath (acrossGroups : Bool) (item : Item) : Option (List Text) :=
  if acrossGroups then none else some item.path

theorem scopeKey_eq_pathKey (item : Item) : scopeKey item = pathKey item.path := rfl

namespace NumberKey

/-- The key of the scope. -/
def scope (key : NumberKey) : Text :=
  match key.path with
  | none => globalScope
  | some path => pathKey path

/-- The key under which a pass keeps the counter. -/
def toText (key : NumberKey) : Text := counterKey key.digits key.scope

/-- The scope that the options of a number choose for an item. -/
theorem scope_eq (options : Number.Options) (item : Item) (digits : Text) :
    options.scope item = scope ⟨digits, scopePath options.acrossGroups item⟩ := by
  rw [Number.Options.scope, scope, scopePath]
  cases options.acrossGroups <;> rfl

/-- The number of items that a pass over `items` has in the scope. -/
def total (items : List Item) (key : NumberKey) : Nat :=
  match key.path with
  | none => items.length
  | some path => items.countP (·.path = path)

end NumberKey

/-! ### Paths -/

/-- Quoted names with a comma before each. -/
def quotedAfterCommas (names : List Text) : Text :=
  names.flatMap fun name => unit ',' :: quoted name

theorem joined_quoted (first : Text) (rest : List Text) :
    Text.joined [unit ','] (Json.itemTexts ((first :: rest).map .string))
      = quoted first ++ quotedAfterCommas rest := by
  induction rest generalizing first with
  | nil => simp [Json.itemTexts, Json.toText, Text.joined, quotedAfterCommas]
  | cons second more ih =>
    have hne : Json.itemTexts ((second :: more).map .string) ≠ [] := by
      simp [Json.itemTexts]
    rw [List.map_cons, Json.itemTexts, joined_cons hne, ih second, Json.toText]
    simp [quotedAfterCommas]

theorem pathKey_nil : pathKey [] = [unit '[', unit ']'] := rfl

theorem pathKey_cons (first : Text) (rest : List Text) :
    pathKey (first :: rest)
      = unit '[' :: (quoted first ++ (quotedAfterCommas rest ++ [unit ']'])) := by
  rw [pathKey, Json.toText, joined_quoted, List.append_assoc]

theorem quotedAfterCommas_inj {p q : List Text}
    (h : quotedAfterCommas p ++ [unit ']'] = quotedAfterCommas q ++ [unit ']']) : p = q := by
  have hmark : unit ',' ≠ unit ']' := by decide
  induction p generalizing q with
  | nil =>
    cases q with
    | nil => rfl
    | cons second more => exact absurd (List.cons.inj h).1 hmark.symm
  | cons first rest ih =>
    cases q with
    | nil => exact absurd (List.cons.inj h).1 hmark
    | cons second more =>
      simp only [quotedAfterCommas, List.flatMap_cons, List.cons_append, List.append_assoc,
        List.cons.injEq, true_and] at h
      obtain ⟨rfl, hrest⟩ := Json.quoted_append_inj h
      rw [ih hrest]

theorem pathKey_inj {p q : List Text} (h : pathKey p = pathKey q) : p = q := by
  have hmark : unit '"' ≠ unit ']' := by decide
  cases p with
  | nil =>
    cases q with
    | nil => rfl
    | cons second more =>
      rw [pathKey_nil, pathKey_cons] at h
      exact absurd (List.cons.inj (List.cons.inj h).2).1 hmark.symm
  | cons first rest =>
    cases q with
    | nil =>
      rw [pathKey_nil, pathKey_cons] at h
      exact absurd (List.cons.inj (List.cons.inj h).2).1 hmark
    | cons second more =>
      rw [pathKey_cons, pathKey_cons] at h
      obtain ⟨rfl, hrest⟩ := Json.quoted_append_inj (List.cons.inj h).2
      rw [quotedAfterCommas_inj hrest]

theorem pathKey_ne_globalScope (path : List Text) : pathKey path ≠ globalScope := by
  have hmark : unit '[' ≠ unit '*' := by decide
  have hglobal : globalScope = [unit '*'] := by decide
  intro h
  rw [hglobal] at h
  exact hmark (List.cons.inj h).1

/-! ### Counters -/

namespace NumberKey

theorem scope_inj {a b : NumberKey} (h : a.scope = b.scope) : a.path = b.path := by
  obtain ⟨_, _ | p⟩ := a <;> obtain ⟨_, _ | q⟩ := b
  · rfl
  · exact absurd h.symm (pathKey_ne_globalScope q)
  · exact absurd h (pathKey_ne_globalScope p)
  · exact congrArg some (pathKey_inj h)

theorem all_of_isNumeral {t : Text} (h : t.isNumeral = true) : t.all isDigit = true := by
  simp only [Text.isNumeral, Bool.and_eq_true] at h
  exact h.2

theorem zero_notMem {digits : Text} (h : digits.all isDigit = true) : (0 : CodeUnit) ∉ digits := by
  intro hzero
  exact absurd (List.all_eq_true.1 h 0 hzero) (by decide)

/-- The first zero unit of a key stands between its digits and its scope. -/
theorem counterKey_inj {d e s t : Text} (hd : d.all isDigit = true) (he : e.all isDigit = true)
    (h : counterKey d s = counterKey e t) : d = e ∧ s = t := by
  rw [counterKey, counterKey] at h
  have hcut := cutAt_append (zero_notMem hd) s
  rw [h, cutAt_append (zero_notMem he) t] at hcut
  simp only [Prod.mk.injEq, Option.some.injEq] at hcut
  exact ⟨hcut.1.symm, hcut.2.symm⟩

theorem toText_inj {a b : NumberKey} (ha : a.digits.all isDigit = true)
    (hb : b.digits.all isDigit = true) (h : a.toText = b.toText) : a = b := by
  obtain ⟨hdigits, hscope⟩ := counterKey_inj ha hb h
  have hpath := scope_inj hscope
  obtain ⟨_, _⟩ := a
  obtain ⟨_, _⟩ := b
  exact congr (congrArg mk hdigits) hpath

/-- A number that is taken moves the counter of its own key, and of no other. -/
theorem counter_takeNumber {key other : NumberKey} (hkey : key.digits.all isDigit = true)
    (hother : other.digits.all isDigit = true) (state : PassState) (initial : Counter) :
    (state.takeNumber key.toText initial).2.counter? other.toText
      = if other = key then
          some { (state.counter? key.toText).getD initial with
            next := ((state.counter? key.toText).getD initial).next
              + ((state.counter? key.toText).getD initial).step }
        else state.counter? other.toText := by
  have htext : other.toText = key.toText ↔ other = key :=
    ⟨toText_inj hother hkey, fun h => by rw [h]⟩
  simp only [PassState.counter_takeNumber, htext]

/-- The total of a scope in a pass is the number of its items with that path, or of all its items. -/
theorem scopeTotal_eq_total {items : List Item} {state : PassState}
    (h : state.scopes = items.map scopeKey) (key : NumberKey) :
    state.scopeTotal key.scope = key.total items := by
  rw [PassState.scopeTotal, h, scope, total]
  cases key.path with
  | none => simp
  | some path =>
    rw [if_neg (pathKey_ne_globalScope path), List.count_eq_countP, List.countP_map]
    refine List.countP_congr fun item _ => ?_
    simp only [Function.comp_apply, beq_iff_eq, decide_eq_true_eq, scopeKey_eq_pathKey]
    exact ⟨pathKey_inj, fun hpath => by rw [hpath]⟩

end NumberKey

end NamePattern
