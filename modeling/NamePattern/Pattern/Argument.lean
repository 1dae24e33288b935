import NamePattern.Text.Blank
import NamePattern.Pattern.Bracket

/-!
Field calls read from the text between their brackets: a name up to the first comma, then arguments
separated by the commas that stand outside wrapped arguments. Raw arguments are kept as written;
`argumentValues` recovers the values they stand for.
-/

namespace NamePattern

/-- A field call: a name and raw arguments, brackets and doubling intact. -/
structure Call where
  name : Text
  args : List Text
  deriving DecidableEq

/-- Puts a text in front of the first of some texts. -/
def prependToFirst (t : Text) : List Text → List Text
  | [] => []
  | first :: rest => (t ++ first) :: rest

/-- The arguments of a text, starting inside a wrapped argument if `wrapped`. Of two equal brackets
in a row neither opens nor closes an argument; any other bracket opens or closes one whatever was
open before. An argument that is still wrapped when the text ends is dropped. -/
def argumentsFrom (wrapped : Bool) : Text → List Text
  | [] => if wrapped then [] else [[]]
  | [u] =>
    if u = comma then if wrapped then [] else [[], []]
    else if u = openBracket then []
    else if u = closeBracket then [[u]]
    else if wrapped then [] else [[u]]
  | u :: v :: rest =>
    if u = comma && !wrapped then [] :: argumentsFrom false (v :: rest)
    else if isBracket u then
      if v = u then prependToFirst [u, v] (argumentsFrom wrapped rest)
      else prependToFirst [u] (argumentsFrom (u == openBracket) (v :: rest))
    else prependToFirst [u] (argumentsFrom wrapped (v :: rest))

/-- The raw arguments of an argument list. -/
def splitArguments (t : Text) : List Text := argumentsFrom false t

/-- The call written between two brackets. -/
def Call.ofSource (source : Text) : Call :=
  match source.cutAt comma with
  | (name, none) => ⟨name.trim, []⟩
  | (name, some args) => ⟨name.trim, splitArguments args⟩

/-- A text without the single brackets around it, if it has both. -/
def unwrapped (t : Text) : Text :=
  if t.head? = some openBracket && t.getLast? = some closeBracket then t.tail.dropLast else t

/-- The value of a raw argument: trimmed, unwrapped, doubled brackets made single. A blank argument
has none. -/
def argumentValue? (raw : Text) : Option Text :=
  let trimmed := raw.trim
  if trimmed.isEmpty then none else some (undoubleBrackets (unwrapped trimmed))

/-- The values of raw arguments, without the blank ones. -/
def argumentValues (raw : List Text) : List Text := raw.filterMap argumentValue?

/-! How much room arguments take up. Neither splitting nor taking values makes anything longer. -/

/-- What some texts take up together. -/
def totalLength (ts : List Text) : Nat := ts.flatten.length

theorem length_le_totalLength {t : Text} {ts : List Text} (h : t ∈ ts) :
    t.length ≤ totalLength ts := by
  induction ts with
  | nil => simp at h
  | cons first rest ih =>
    simp only [totalLength, List.flatten_cons, List.length_append] at ih ⊢
    rcases List.mem_cons.1 h with rfl | h
    · omega
    · have := ih h
      omega

theorem totalLength_prependToFirst_le (t : Text) (ts : List Text) :
    totalLength (prependToFirst t ts) ≤ t.length + totalLength ts := by
  cases ts with
  | nil => simp [prependToFirst, totalLength]
  | cons first rest =>
    simp only [prependToFirst, totalLength, List.flatten_cons, List.length_append, List.length_append]
    omega

theorem totalLength_argumentsFrom_le (wrapped : Bool) (t : Text) :
    totalLength (argumentsFrom wrapped t) ≤ t.length := by
  fun_induction argumentsFrom wrapped t with
  | case1 | case2 | case3 | case4 | case5 | case6 | case7 | case8 => simp [totalLength]
  | case9 wrapped u v rest _ ih =>
    simp only [totalLength, List.flatten_cons, List.length_append, List.length_cons] at ih ⊢
    simp only [List.length_nil]
    omega
  | case10 wrapped u rest _ ih =>
    have := totalLength_prependToFirst_le [u, u] (argumentsFrom wrapped rest)
    simp only [List.length_cons, List.length_nil] at this ⊢
    omega
  | case11 wrapped u v rest _ _ _ ih =>
    have := totalLength_prependToFirst_le [u] (argumentsFrom (u == openBracket) (v :: rest))
    simp only [List.length_cons, List.length_nil] at this ih ⊢
    omega
  | case12 wrapped u v rest _ _ ih =>
    have := totalLength_prependToFirst_le [u] (argumentsFrom wrapped (v :: rest))
    simp only [List.length_cons, List.length_nil] at this ih ⊢
    omega

/-- The arguments of a call leave out at least the comma before them. -/
theorem totalLength_ofSource_le (source : Text) :
    totalLength (Call.ofSource source).args ≤ source.length - 1 := by
  rw [Call.ofSource]
  split
  · simp [totalLength]
  · next name args h =>
    have shorter := Text.length_after_cut h
    have := totalLength_argumentsFrom_le false args
    simp only [splitArguments]
    omega

theorem length_undouble_le (u : CodeUnit) (t : Text) : (Text.undouble u t).length ≤ t.length := by
  fun_induction Text.undouble u t with
  | case1 | case2 => simp
  | case3 v w rest _ ih =>
    simp only [List.length_cons]
    omega
  | case4 v w rest _ ih =>
    simp only [List.length_cons] at ih ⊢
    omega

theorem length_dropWhile_le {α : Type} (p : α → Bool) (l : List α) :
    (l.dropWhile p).length ≤ l.length :=
  (List.dropWhile_sublist p).length_le

theorem length_trim_le (t : Text) : t.trim.length ≤ t.length := by
  have first := length_dropWhile_le isBlank t
  have last := length_dropWhile_le isBlank (t.dropWhile isBlank).reverse
  simp only [List.length_reverse] at last
  simp only [Text.trim, Text.trimStart, Text.trimEnd, List.length_reverse]
  omega

theorem length_unwrapped_le (t : Text) : (unwrapped t).length ≤ t.length := by
  rw [unwrapped]
  split
  · simp only [List.length_dropLast, List.length_tail]
    omega
  · omega

/-- The value of an argument is no longer than the argument, which is not empty. -/
theorem length_argumentValue_le {raw value : Text} (h : argumentValue? raw = some value) :
    value.length ≤ raw.length ∧ 0 < raw.length := by
  rw [argumentValue?] at h
  have trimmed := length_trim_le raw
  split at h
  · simp at h
  · next nonempty =>
    simp only [Option.some.injEq] at h
    subst h
    have some_left : 0 < raw.trim.length := by
      rcases hraw : raw.trim with _ | ⟨u, rest⟩
      · simp [hraw] at nonempty
      · simp
    have inner := length_unwrapped_le raw.trim
    have opened := length_undouble_le openBracket (unwrapped raw.trim)
    have closed := length_undouble_le closeBracket (Text.undouble openBracket (unwrapped raw.trim))
    simp only [undoubleBrackets]
    omega

/-- The call that the value of an argument stands for has less in its arguments than the call that
the argument belongs to. -/
theorem totalLength_ofSource_lt {raw : List Text} {value : Text} (h : value ∈ argumentValues raw) :
    totalLength (Call.ofSource value).args < totalLength raw := by
  obtain ⟨arg, mem, hvalue⟩ := List.mem_filterMap.1 h
  have := length_argumentValue_le hvalue
  have := totalLength_ofSource_le value
  have := length_le_totalLength mem
  omega

end NamePattern
