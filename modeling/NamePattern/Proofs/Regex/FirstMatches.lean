import Mathlib.Control.Monad.Basic
import NamePattern.Proofs.Evaluation.Flags
import NamePattern.Proofs.Regex.Progress

/-!
Replacing the first matches. The input is cut at its matches: each of the first ones gives way to its
replacement, and all that stands before, between and behind them is copied. `Rewritten` says so without
looking at where the replacing has got to; it needs nothing of the matches but that they come one after
the other. A count that a replace field is given is the number that its digits spell, however many there
are.
-/

namespace NamePattern

/-- What an input, from an index on, becomes when some matches in it are written anew: the gap before each
match is copied, and so is what is left behind the last one. -/
inductive Rewritten (write : Match → Text) : Nat → Text → List Match → Text → Prop
  | done {start t} : Rewritten write start t [] t
  | next {start gap m input found output} (hindex : m.index = start + gap.length)
      (hrest : Rewritten write m.stop input found output) :
      Rewritten write start (gap ++ m.content ++ input) (m :: found) (gap ++ write m ++ output)

namespace Rewritten
variable {write : Match → Text} {start : Nat} {input output other : Text} {m : Match}
  {found : List Match}

theorem of_cons (h : Rewritten write start input (m :: found) output) :
    ∃ gap rest more, m.index = start + gap.length ∧ input = gap ++ m.content ++ rest ∧
      output = gap ++ write m ++ more ∧ Rewritten write m.stop rest found more := by
  cases h with
  | next hindex hrest => exact ⟨_, _, _, hindex, rfl, rfl, hrest⟩

/-- The matches say where the gaps are, so an input is rewritten in one way only. -/
theorem unique (h : Rewritten write start input found output)
    (h' : Rewritten write start input found other) : other = output := by
  induction h generalizing other with
  | done => cases h'; rfl
  | @next start gap m rest found more hindex _ ih =>
    obtain ⟨gap', rest', more', hindex', hinput, rfl, hrest'⟩ := h'.of_cons
    rw [List.append_assoc, List.append_assoc] at hinput
    have hlength : gap.length = gap'.length := Nat.add_left_cancel (hindex.symm.trans hindex')
    obtain ⟨rfl, hbehind⟩ := List.append_inj hinput hlength
    obtain rfl := List.append_cancel_left hbehind
    rw [ih hrest']

/-- Matches that are written as they are leave the input as it is. -/
theorem eq_of_content (hwrite : ∀ m, write m = m.content)
    (h : Rewritten write start input found output) : output = input := by
  induction h with
  | done => rfl
  | next _ _ ih => rw [ih, hwrite]

end Rewritten

/-! ### The first matches -/

theorem Regex.Successive.take {input : Text} {last : Nat} {found : List Match}
    (h : Successive input last found) (count : Nat) : Successive input last (found.take count) := by
  induction h generalizing count with
  | done =>
    rw [List.take_nil]
    exact .done
  | next hstart hstop hinput hcontent _ ih =>
    cases count with
    | zero => exact .done
    | succ count =>
      rw [List.take_succ_cons]
      exact .next hstart hstop hinput hcontent (ih count)

/-- What is left of a text behind one index is what stands before a later one and what is left behind
that. -/
theorem drop_eq_append {a b : Nat} (h : a ≤ b) (t : Text) :
    t.drop a = (t.take b).drop a ++ t.drop b := by
  have hdrop : t.drop b = (t.drop a).drop (b - a) := by
    rw [List.drop_drop, Nat.add_sub_cancel' h]
  rw [hdrop, List.drop_take, List.take_append_drop]

/-- Matches that come one after the other are rewritten, whatever is written for them. -/
theorem rewritten_replaceFrom {input : Text} {last : Nat} {found : List Match}
    (h : Regex.Successive input last found) (write : Match → Text) :
    Rewritten write last (input.drop last) found (replaceFrom input last write found) := by
  induction h with
  | done => exact .done
  | @next last m rest hstart hstop _ hcontent _ ih =>
    have hle : m.index ≤ m.stop := Nat.le_add_right _ _
    have hgap : m.index = last + ((input.take m.index).drop last).length := by
      rw [List.length_drop, List.length_take]
      omega
    have hmatch : m.content = (input.take m.stop).drop m.index := by
      rw [hcontent, List.extract_eq_take_drop, List.drop_take]
    have hcut : input.drop last
        = (input.take m.index).drop last ++ m.content ++ input.drop m.stop := by
      rw [drop_eq_append hstart, drop_eq_append hle, ← hmatch, List.append_assoc]
    rw [hcut, replaceFrom]
    exact .next hgap ih

/-- An ampersand behind a dollar sign stands for the match. -/
theorem expandReplacement_match (m : Match) : expandReplacement m (text "$&") = m.content := by
  have htext : text "$&" = [unit '$', unit '&'] := by decide
  rw [htext, expandReplacement, if_neg (not_not_intro rfl), if_neg (by decide), if_pos rfl,
    expandReplacement, List.append_nil]

/-! ### The flags of a replace field -/

namespace Regex

/-- No flag is taken back. -/
theorem Flags.global_of_add {flags next : Flags} {u : CodeUnit} (h : flags.add? u = some next)
    (hglobal : flags.global = true) : next.global = true := by
  rw [add?] at h
  repeat' split at h
  all_goals cases h
  all_goals first | rfl | exact hglobal

theorem Flags.global_of_foldlM (flags : Flags) {next : Flags} {letters : Text}
    (h : letters.foldlM Flags.add? flags = some next) (hglobal : flags.global = true) :
    next.global = true := by
  induction letters generalizing flags with
  | nil => cases h; exact hglobal
  | cons u rest ih =>
    rw [List.foldlM_cons] at h
    obtain ⟨middle, hadd, hrest⟩ := Option.bind_eq_some_iff.1 h
    exact ih middle hrest (global_of_add hadd hglobal)

theorem flags_of_ofText {source : Text} {flags : Flags} {regex : Regex}
    (h : ofText? source flags = some regex) : regex.flags = flags := by
  rw [ofText?] at h
  obtain ⟨tokens, -, htokens⟩ := Option.bind_eq_some_iff.1 h
  obtain ⟨-, hroot⟩ := Option.ite_none_right_eq_some.1 htokens
  obtain ⟨root, -, rfl⟩ := Option.map_eq_some_iff.1 hroot
  rfl

end Regex

/-- The flags that a replace field is given always make its expression global. -/
theorem Replace.global_of_readFlags {names : List Text} {flags : Regex.Flags}
    (h : Replace.readFlags names = .ok flags) : flags.global = true := by
  rw [readFlags] at h
  split at h
  · next found hfound =>
    cases h
    obtain ⟨letters, hletters, hflags⟩ := Option.bind_eq_some_iff.1 hfound
    obtain ⟨read, -, rfl⟩ := Option.map_eq_some_iff.1 hletters
    exact Regex.Flags.global_of_foldlM { global := true } hflags rfl
  · cases h

/-- A replace field reads its count off the digits that are written for it. -/
theorem Replace.parse_of_count {raw names : List Text} {target search replacement digits : Text}
    {flags : Regex.Flags}
    (hvalues : argumentValues raw = target :: search :: replacement :: digits :: names)
    (hdigits : digits.isNumeral = true) (hflags : Replace.readFlags names = .ok flags) :
    parseArguments Replace.spec Replace.readRequest raw
      = .ok ⟨target, search, replacement, digits.toNat, flags⟩ := by
  rw [Replace.parse_of_values hvalues, if_pos hdigits, hflags]

/-- How many of some matches a count has replaced: all of them if it is zero. -/
def replacedCount (count found : Nat) : Nat := if count = 0 then found else min count found

section
variable (regex : Regex) (input t : Text) (count : Nat)

/-- The matches that are replaced are the first ones. -/
theorem replaceMatches_eq_replaceFrom :
    replaceMatches input regex t count
      = replaceFrom input 0 (fun m => expandReplacement m t)
          ((regex.matches input).take (replacedCount count (regex.matches input).length)) := by
  rw [replaceMatches, replacedCount]
  by_cases hcount : count = 0
  · rw [if_pos hcount, if_pos hcount, List.take_length]
  · rw [if_neg hcount, if_neg hcount, ← List.take_eq_take_min]

theorem rewritten_replaceMatches :
    Rewritten (fun m => expandReplacement m t) 0 input
      ((regex.matches input).take (replacedCount count (regex.matches input).length))
      (replaceMatches input regex t count) := by
  rw [replaceMatches_eq_replaceFrom]
  exact rewritten_replaceFrom ((Regex.successive_matches regex input).take _) _

end

/-- In an input, the first matches of an expression give way to their replacements and all else is
copied: as many matches as the count says, or all if it is zero. So a match that is replaced by itself
changes nothing, and counts that no match exceeds are as good as none. A replace field does this to the
value of its target, whatever digits its count is written with. -/
theorem first_matches_are_replaced :
    (∀ (regex : Regex) (input t : Text) (count : Nat), regex.flags.global = true →
      let found := regex.matches input
      (∃ output, replaceMatches? input regex t count = .ok output ∧ ∀ other,
        Rewritten (fun m => expandReplacement m t) 0 input
          (found.take (replacedCount count found.length)) other ↔ other = output) ∧
      replaceMatches? input regex (text "$&") count = .ok input ∧
      (found.length ≤ count →
        replaceMatches? input regex t count = replaceMatches? input regex t 0)) ∧
    ∀ registry state item name raw target search t digits names flags regex input next,
      argumentValues raw = target :: search :: t :: digits :: names → digits.isNumeral = true →
      Replace.readFlags names = .ok flags → Regex.ofText? search flags = some regex →
      Replace.Request.evaluateTarget registry state item ⟨target, search, t, digits.toNat, flags⟩
        = (.ok (.ok input), next) →
      ∃ output, replaceMatches? input regex t digits.toNat = .ok output ∧
        evaluate registry state item (.builtin .replace) name raw = (.ok (.ok output), next) := by
  refine ⟨fun regex input t count hglobal => ?_, ?_⟩
  · have hok : ∀ replacement n, replaceMatches? input regex replacement n
        = .ok (replaceMatches input regex replacement n) := fun replacement n => if_pos hglobal
    have hrewritten := rewritten_replaceMatches regex input
    refine ⟨⟨_, hok t count, fun other => ⟨fun h => ?_, ?_⟩⟩, ?_, fun hle => ?_⟩
    · exact (hrewritten t count).unique h
    · rintro rfl
      exact hrewritten t count
    · rw [hok, (hrewritten (text "$&") count).eq_of_content expandReplacement_match]
    · rw [hok, hok, replaceMatches_eq_replaceFrom, replaceMatches_eq_replaceFrom, replacedCount,
        Nat.min_eq_right hle, ite_self, replacedCount, if_pos rfl]
  · intro registry state item name raw target search t digits names flags regex input next hvalues
      hdigits hflags hregex htarget
    have hglobal : regex.flags.global = true := by
      rw [Regex.flags_of_ofText hregex]
      exact Replace.global_of_readFlags hflags
    refine ⟨replaceMatches input regex t digits.toNat, if_pos hglobal, ?_⟩
    rw [evaluate_replace_of_request registry state item name
      (Replace.parse_of_count hvalues hdigits hflags), htarget]
    simp only [Replace.Request.apply, hregex]

/-- Of five matches, three of them empty, a count with zeros in front of it replaces the first three. -/
theorem count_with_zeros_replaces_three :
    let input := text "abcb"
    let t := text "<$&>"
    let item : Item := { Item.within [] with name := input }
    let state := PassState.start [] {} none
    let raw := [text " [layer name]", text " [b*]", text " [<$&>]", text " 003"]
    ∃ regex, Regex.ofText? (text "b*") { global := true } = some regex ∧
      (regex.matches input).map (fun m => (m.index, m.content))
        = [(0, []), (1, text "b"), (2, []), (3, text "b"), (4, [])] ∧
      Rewritten (fun m => expandReplacement m t) 0 input ((regex.matches input).take 3)
        (text "<>a<b><>cb") ∧
      replaceMatches? input regex (text "$&") 3 = .ok input ∧
      replaceMatches? input regex t 5 = replaceMatches? input regex t 0 ∧
      evaluate .builtin state item (.builtin .replace) (text "replace") raw
        = (.ok (.ok (text "<>a<b><>cb")), state) := by
  intro input t item state raw
  obtain ⟨hfirst, hfield⟩ := first_matches_are_replaced
  have hread : (Regex.ofText? (text "b*") { global := true }).isSome = true := by decide +kernel
  obtain ⟨regex, hregex⟩ := Option.isSome_iff_exists.1 hread
  have hglobal : regex.flags.global = true := by rw [Regex.flags_of_ofText hregex]
  -- what the expression finds and makes is read off its source
  have hlist : (Regex.ofText? (text "b*") { global := true }).map (fun regex =>
      (regex.matches input).map fun m => (m.index, m.content))
        = some [(0, []), (1, text "b"), (2, []), (3, text "b"), (4, [])] := by
    decide +kernel
  have hthree : (Regex.ofText? (text "b*") { global := true }).map (fun regex =>
      replaceMatches? input regex t 3) = some (.ok (text "<>a<b><>cb")) := by
    decide +kernel
  rw [hregex, Option.map_some, Option.some.injEq] at hlist hthree
  have hlength : (regex.matches input).length = 5 := by
    rw [← List.length_map (fun m => (m.index, m.content)), hlist]
    rfl
  obtain ⟨⟨output, houtput, hrewritten⟩, hsame, -⟩ := hfirst regex input t 3 hglobal
  obtain ⟨-, -, hall⟩ := hfirst regex input t 5 hglobal
  obtain rfl := Except.ok.inj (houtput.symm.trans hthree)
  have htarget : Replace.Request.evaluateTarget .builtin state item
      ⟨text "layer name", text "b*", t, (text "003").toNat, { global := true }⟩
        = (.ok (.ok input), state) := by
    decide +kernel
  obtain ⟨made, hmade, hevaluate⟩ := hfield .builtin state item (text "replace") raw
    (text "layer name") (text "b*") t (text "003") [] { global := true } regex input state
    (by decide +kernel) (by decide) (by decide) hregex htarget
  obtain rfl := Except.ok.inj (hmade.symm.trans hthree)
  refine ⟨regex, hregex, hlist, ?_, hsame, hall (Nat.le_of_eq hlength), hevaluate⟩
  have hthird := (hrewritten (text "<>a<b><>cb")).2 rfl
  rwa [hlength] at hthird

end NamePattern
