import NamePattern.Regex.Search
import NamePattern.Text.Decimal

/-!
Replacing the matches of a regular expression. A replacement may refer to its match with a dollar
sign: two dollar signs stand for one, an ampersand, a grave accent and an apostrophe for the match and
for the text before and after it, one or two digits for a group, and a name between angle brackets
for a named one. Any other dollar sign stands for itself.
-/

namespace NamePattern

/-- The text of a group by its number, which counts from one. -/
def Match.captured? (m : Match) (number : Nat) : Option Text :=
  if number = 0 then none else (m.captures[number - 1]?).map fun capture => capture.getD []

/-- The text of a group by its name, empty if there is none. -/
def Match.named (groups : List (Text × Option Text)) (name : Text) : Text :=
  ((groups.find? fun g => g.1 = name).bind Prod.snd).getD []

/-- The text for digits after a dollar sign: of the group with two digits if the second unit is a
digit and there is such a group, else of the group with one. The second part is what is left. -/
def Match.numbered? (m : Match) (first : CodeUnit) (rest : Text) : Option (Text × Text) :=
  let one := (m.captured? (digitValue first)).map fun t => (t, rest)
  match rest with
  | second :: more =>
    if isDigit second then
      ((m.captured? (10 * digitValue first + digitValue second)).map fun t => (t, more)).or one
    else one
  | [] => one

/-- What is left after digits is shorter than what began with them. -/
theorem Match.length_numbered_lt {m : Match} {first : CodeUnit} {rest t after : Text}
    (h : m.numbered? first rest = some (t, after)) : after.length < rest.length + 1 := by
  unfold Match.numbered? at h
  split at h
  · next second more =>
    split at h
    · rcases Option.or_eq_some_iff.1 h with h | ⟨_, h⟩
      · simp only [Option.map_eq_some_iff, Prod.mk.injEq] at h
        obtain ⟨_, _, _, rfl⟩ := h
        simp only [List.length_cons]
        omega
      · simp only [Option.map_eq_some_iff, Prod.mk.injEq] at h
        obtain ⟨_, _, _, rfl⟩ := h
        exact Nat.lt_succ_self _
    · simp only [Option.map_eq_some_iff, Prod.mk.injEq] at h
      obtain ⟨_, _, _, rfl⟩ := h
      exact Nat.lt_succ_self _
  · simp only [Option.map_eq_some_iff, Prod.mk.injEq] at h
    obtain ⟨_, _, _, rfl⟩ := h
    exact Nat.lt_succ_self _

/-- The replacement of one match. -/
def expandReplacement (m : Match) (t : Text) : Text :=
  match t with
  | [] => []
  | [u] => [u]
  | u :: c :: rest =>
    if u ≠ unit '$' then u :: expandReplacement m (c :: rest)
    else if c = unit '$' then u :: expandReplacement m rest
    else if c = unit '&' then m.content ++ expandReplacement m rest
    else if c = 0x60 then m.input.take m.index ++ expandReplacement m rest
    else if c = unit '\'' then m.input.drop m.stop ++ expandReplacement m rest
    else if c = unit '<' then
      match _h : Text.cutAt (unit '>') rest with
      | (name, some after) =>
        let named := match m.groups with
          | none => u :: c :: (name ++ [unit '>'])
          | some groups => Match.named groups name
        named ++ expandReplacement m after
      | (_, none) => u :: expandReplacement m (c :: rest)
    else if isDigit c then
      match _h : m.numbered? c rest with
      | some (captured, after) => captured ++ expandReplacement m after
      | none => u :: expandReplacement m (c :: rest)
    else u :: expandReplacement m (c :: rest)
termination_by t.length
decreasing_by
  all_goals simp only [List.length_cons]
  all_goals try omega
  · have shorter := Text.length_after_cut _h
    omega
  · have shorter := Match.length_numbered_lt _h
    omega

/-- An input from index `last` on, with each of some matches replaced. -/
def replaceFrom (input : Text) (last : Nat) (replacement : Match → Text) : List Match → Text
  | [] => input.drop last
  | m :: rest =>
    (input.take m.index).drop last ++ replacement m ++ replaceFrom input m.stop replacement rest

/-- An input with the first `count` of its matches replaced, or all of them if `count` is zero. -/
def replaceMatches (input : Text) (regex : Regex) (replacement : Text) (count : Nat) : Text :=
  let found := regex.matches input
  replaceFrom input 0 (fun m => expandReplacement m replacement)
    (if count = 0 then found else found.take count)

/-- Why matches cannot be replaced. -/
inductive ReplaceError
  | notGlobal
  deriving DecidableEq

/-- The text of an error. -/
def ReplaceError.message : ReplaceError → Text
  | .notGlobal => text "String.prototype.matchAll called with a non-global RegExp argument"

/-- `replaceMatches`, refused for an expression that is not global. -/
def replaceMatches? (input : Text) (regex : Regex) (replacement : Text) (count : Nat) :
    Except ReplaceError Text :=
  if regex.flags.global then .ok (replaceMatches input regex replacement count)
  else .error .notGlobal

end NamePattern
