import NamePattern.Proofs.Pattern.Argument

/-!
What the splitter drops. In a closed group every argument is finished, but the splitter takes any text, and
one in which a wrapped argument is never closed ends in the middle of it. Nothing is then made of the text
behind the last comma that it cut at: the arguments before are those of the text without the comma and what
follows it, and if there is no such comma, there are no arguments at all.
-/

namespace NamePattern

/-- A source that its call holds all of: the name and the arguments with commas between them. -/
def ReadInFull (source : Text) : Prop :=
  Text.joined [comma] ((source.cutAt comma).1 :: (Call.ofSource source).args) = source

instance (source : Text) : Decidable (ReadInFull source) := inferInstanceAs (Decidable (_ = _))

/-- What becomes of a text that the splitter takes from inside a wrapped argument or from outside. -/
inductive Splitting (wrapped : Bool) (t : Text) : Prop
  | whole (h : Rejoins wrapped t)
  | lost (h : argumentsFrom wrapped t = [])
  | cut {kept dropped : Text} (ht : t = kept ++ comma :: dropped) (hkept : Rejoins wrapped kept)
    (hsame : argumentsFrom wrapped t = argumentsFrom wrapped kept)
    (hdropped : splitArguments dropped = [])

/-! ### Along the splitting -/

/-- Induction along the splitting, with one case for each way in which it goes on. -/
theorem argumentsFrom_induction {motive : Bool → Text → Prop}
    (nil : ∀ wrapped, motive wrapped [])
    (other : ∀ wrapped u t, isBracket u = false → u ≠ comma → motive wrapped t →
      motive wrapped (u :: t))
    (comma : ∀ t, motive false t → motive false (comma :: t))
    (commaWrapped : ∀ t, motive true t → motive true (NamePattern.comma :: t))
    (doubled : ∀ wrapped u t, isBracket u = true → motive wrapped t → motive wrapped (u :: u :: t))
    (single : ∀ wrapped u t, isBracket u = true → t.head? ≠ some u → motive (u == openBracket) t →
      motive wrapped (u :: t)) (wrapped : Bool) (t : Text) : motive wrapped t := by
  -- a doubled bracket takes two units at once, so the induction is on the length
  induction h : t.length using Nat.strongRecOn generalizing wrapped t with
  | ind length ih =>
    subst h
    have shorter : ∀ w s, s.length < t.length → motive w s := fun w s hs => ih s.length hs w s rfl
    rcases t with _ | ⟨u, rest⟩
    · exact nil wrapped
    have hrest : rest.length < (u :: rest).length := by simp
    cases hu : isBracket u with
    | false =>
      by_cases hc : u = NamePattern.comma
      · subst hc
        cases wrapped with
        | false => exact comma rest (shorter false rest hrest)
        | true => exact commaWrapped rest (shorter true rest hrest)
      · exact other wrapped u rest hu hc (shorter wrapped rest hrest)
    | true =>
      by_cases hd : rest.head? = some u
      · obtain ⟨more, rfl⟩ := List.head?_eq_some_iff.1 hd
        exact doubled wrapped u more hu (shorter wrapped more (by simp only [List.length_cons]; omega))
      · exact single wrapped u rest hu hd (shorter _ rest hrest)

namespace Splitting
variable {wrapped inner : Bool} {t : Text}

/-- Units in front that begin an argument, whatever of the text is taken. -/
theorem prepend (h : Splitting inner t) (front : Text)
    (hsplit : ∀ s, s <+: t →
      argumentsFrom wrapped (front ++ s) = prependToFirst front (argumentsFrom inner s)) :
    Splitting wrapped (front ++ t) := by
  cases h with
  | whole h => exact .whole ((Rejoins.prepend_iff front (hsplit t List.prefix_rfl)).2 h)
  | lost h =>
    refine .lost ?_
    rw [hsplit t List.prefix_rfl, h]
    rfl
  | @cut kept dropped ht hkept hsame hdropped =>
    have hprefix : kept <+: t := ht ▸ List.prefix_append kept _
    have hfront := (Rejoins.prepend_iff front (hsplit kept hprefix)).2 hkept
    refine .cut (by rw [ht, List.append_assoc]) hfront ?_ hdropped
    rw [hsplit t List.prefix_rfl, hsplit kept hprefix, hsame]

/-- A comma outside begins an argument, which may be the one that is dropped. -/
theorem comma (h : Splitting false t) : Splitting false (NamePattern.comma :: t) := by
  cases h with
  | whole h => exact .whole (h.other comma_not_bracket)
  | lost h =>
    have hcut : NamePattern.comma :: t = [] ++ NamePattern.comma :: t := rfl
    refine .cut hcut (Rejoins.nil_iff.2 rfl) ?_ h
    rw [argumentsFrom_comma, h]
    rfl
  | @cut kept dropped ht hkept hsame hdropped =>
    refine .cut (by rw [ht]; rfl) (hkept.other comma_not_bracket) ?_ hdropped
    rw [argumentsFrom_comma, argumentsFrom_comma, hsame]

end Splitting

/-- Of any text the splitter keeps all, nothing, or what stands before a comma that it cuts at. -/
theorem splitting (wrapped : Bool) (t : Text) : Splitting wrapped t := by
  induction wrapped, t using argumentsFrom_induction with
  | nil wrapped =>
    cases wrapped with
    | false => exact .whole (Rejoins.nil_iff.2 rfl)
    | true => exact .lost rfl
  | other wrapped u t hu hc ih => exact ih.prepend [u] fun s _ => argumentsFrom_other wrapped hu hc s
  | comma t ih => exact ih.comma
  | commaWrapped t ih => exact ih.prepend [comma] fun s _ => argumentsFrom_comma_wrapped s
  | doubled wrapped u t hu ih => exact ih.prepend [u, u] fun s _ => argumentsFrom_doubled wrapped hu s
  | single wrapped u t hu hd ih =>
    refine ih.prepend [u] fun s hs => argumentsFrom_bracket wrapped hu ?_
    obtain ⟨rest, rfl⟩ := hs
    exact head_ne_of_append hd

/-! ### The source of a call -/

theorem readInFull_of_notMem {source : Text} (h : comma ∉ source) : ReadInFull source := by
  rw [ReadInFull, ofSource_of_notMem h, cutAt_of_notMem h, joined_singleton]

theorem readInFull_of_rejoins {before after : Text} (hbefore : comma ∉ before)
    (h : Rejoins false after) : ReadInFull (before ++ comma :: after) := by
  rw [ReadInFull, ofSource_append hbefore, cutAt_append hbefore]
  dsimp only
  rw [splitArguments, joined_cons h.ne_nil, h.joined, List.append_assoc, List.singleton_append]

/-- A source that is not read in full is read as a shorter one that is, without one of its commas and what
follows it: an argument list that has no argument of its own. -/
theorem readInFull_or_dropped (source : Text) :
    ReadInFull source ∨ ∃ kept dropped, source = kept ++ comma :: dropped ∧ ReadInFull kept ∧
      Call.ofSource source = Call.ofSource kept ∧ splitArguments dropped = [] := by
  by_cases hcomma : comma ∈ source
  · obtain ⟨before, after, rfl, hbefore⟩ := List.eq_append_cons_of_mem hcomma
    rcases splitting false after with h | h | ⟨rfl, hkept, hsame, hdropped⟩
    · exact .inl (readInFull_of_rejoins hbefore h)
    · refine .inr ⟨before, after, rfl, readInFull_of_notMem hbefore, ?_, h⟩
      rw [ofSource_append hbefore, ofSource_of_notMem hbefore, splitArguments, h]
    · refine .inr ⟨_, _, ?_, readInFull_of_rejoins hbefore hkept, ?_, hdropped⟩
      · rw [List.append_assoc, List.cons_append]
      · rw [ofSource_append hbefore, ofSource_append hbefore, splitArguments, hsame, splitArguments]
  · exact .inl (readInFull_of_notMem hcomma)

/-- An argument that stays open is dropped behind a finished one. -/
example : Call.ofSource (text "tags, [a], [b") = ⟨text "tags", [text " [a]"]⟩ := by decide +kernel

end NamePattern
