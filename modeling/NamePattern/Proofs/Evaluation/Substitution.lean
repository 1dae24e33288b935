import Mathlib.Control.Monad.Basic
import NamePattern.Proofs.Evaluation.Flags
import NamePattern.Proofs.Evaluation.Frame
import NamePattern.Proofs.Pattern.Account
import NamePattern.Proofs.Pattern.Written
import NamePattern.Proofs.Text.Caseless

/-!
A target means what the field means. The source of a field, written as the first argument of a
replace field with its brackets doubled, is read once with the arguments of that field and once more as
a call of its own; it comes out as the call that it is where it makes up a pattern. So a written replace
field has a value just when its target has one, whatever the target is, and replace fields within
replace fields apply their substitutions from the inside out.
-/

namespace NamePattern

/-! ### Counts and names of flags need no wrapping -/

theorem eq_digit {u : CodeUnit} (h : isDigit u = true) : ∃ n < 10, u = digit n := by
  simp only [isDigit, Bool.and_eq_true, decide_eq_true_eq, UInt16.le_iff_toNat_le] at h
  have hlow : (0x30 : CodeUnit).toNat = 0x30 := rfl
  have hhigh : (0x39 : CodeUnit).toNat = 0x39 := rfl
  refine ⟨u.toNat - 0x30, by omega, ?_⟩
  have hsum : 0x30 + (u.toNat - 0x30) = u.toNat := by omega
  rw [digit, hsum]
  simp

theorem isBare_of_isNumeral {v : Text} (h : v.isNumeral = true) : IsBare v := by
  have hdigit : ∀ n < 10,
      (!isBlank (digit n) && digit n != comma && !isBracket (digit n)) = true := by
    decide
  rw [Text.isNumeral, Bool.and_eq_true, List.all_eq_true] at h
  refine .of_all ?_ (List.all_eq_true.2 fun u hu => ?_)
  · rintro rfl
    exact absurd h.1 (by decide)
  · obtain ⟨n, hn, rfl⟩ := eq_digit (h.2 u hu)
    exact hdigit n hn

/-- The names of flags are told by their lower case, in which blanks and marks would still stand. -/
theorem isBare_of_flagOf {name : Text} {letter : Option CodeUnit}
    (h : Replace.flagOf? name = some letter) : IsBare name := by
  have hnames : ∀ flag ∈ Replace.flagNames, flag.1 ≠ [] ∧
      flag.1.all (fun u => !isBlank u && u != comma && !isBracket u) = true := by decide
  obtain ⟨flag, hfind, -⟩ := Option.map_eq_some_iff.1 h
  obtain ⟨hne, hall⟩ := hnames flag (List.mem_of_find?_eq_some hfind)
  have hunits : ∀ u ∈ flag.1, isBlank u = false ∧ u ≠ comma ∧ isBracket u = false := by
    intro u hu
    simpa [and_assoc] using List.all_eq_true.1 hall u hu
  have hlower : flag.1 = name.lower := by simpa using List.find?_some hfind
  rw [hlower] at hne hunits
  refine ⟨?_, fun u hu => ?_, fun hc => ?_, fun u hu => ?_⟩
  · rintro rfl
    exact hne rfl
  · refine Bool.eq_false_iff.2 fun hblank => ?_
    have hmem := Text.mem_lower (isCaseless_of_isBlank hblank) hu
    exact Bool.eq_false_iff.1 (hunits u hmem).1 hblank
  · exact (hunits comma (Text.mem_lower isCaseless_comma hc)).2.1 rfl
  · refine Bool.eq_false_iff.2 fun hbracket => ?_
    have hmem := Text.mem_lower (isCaseless_of_isBracket hbracket) hu
    exact Bool.eq_false_iff.1 (hunits u hmem).2.2 hbracket

theorem exists_of_mapM {α β : Type} {f : α → Option β} {as : List α} {bs : List β}
    (h : as.mapM f = some bs) : ∀ a ∈ as, ∃ b, f a = some b := by
  intro a ha
  have hmem : f a ∈ bs.map some := map_eq_of_mapM h ▸ List.mem_map_of_mem ha
  obtain ⟨b, -, hb⟩ := List.mem_map.1 hmem
  exact ⟨b, hb.symm⟩

theorem isBare_of_readFlags {names : List Text} {flags : Regex.Flags}
    (h : Replace.readFlags names = .ok flags) : ∀ name ∈ names, IsBare name := by
  rw [Replace.readFlags] at h
  split at h
  · next found hfound =>
    obtain ⟨letters, hletters, -⟩ := Option.bind_eq_some_iff.1 hfound
    obtain ⟨read, hread, -⟩ := Option.map_eq_some_iff.1 hletters
    intro name hname
    obtain ⟨letter, hletter⟩ := exists_of_mapM hread name hname
    exact isBare_of_flagOf hletter
  · cases h

/-! ### Written replace fields -/

/-- What a written replace field does to the value of its target. A count and the names of flags may
follow its replacement. -/
structure Substitution where
  search : Text
  replacement : Text
  further : List WrittenArgument
  count : Nat
  flags : Regex.Flags
  readCount : Replace.readCount (further.map WrittenArgument.value) = .ok count
  readFlags : Replace.readFlags (further.map WrittenArgument.value).tail = .ok flags

/-- The text between the brackets of a field that is no number, and the call that it is read as where it
makes up a pattern. -/
structure IsTarget (source : Text) (call : Call) : Prop where
  segments : (Pattern.read .builtin (bracketed source)).segments = [.field call ⟨source, 0⟩]
  no_number : Registry.builtin.find? call.name ≠ some (.builtin .number)

namespace Substitution
variable (sub : Substitution) (target : Text)

/-- The arguments of the replace field. -/
def arguments : List WrittenArgument :=
  .wrapped target :: .wrapped sub.search :: .wrapped sub.replacement :: sub.further

/-- The text between the brackets of the replace field. -/
def source : Text := writtenSource (text "replace") (sub.arguments target)

/-- The call of the replace field. -/
def call : Call := ⟨text "replace", rawArguments (sub.arguments target)⟩

/-- The value of the replace field for a value of its target, if the regular expression is valid. -/
def valueOf? (value : Text) : Option Text :=
  (Regex.ofText? sub.search sub.flags).map fun regex =>
    replaceMatches value regex sub.replacement sub.count

theorem further_sound : ∀ arg ∈ sub.further, arg.Sound := by
  have hcount := sub.readCount
  have hflags := isBare_of_readFlags sub.readFlags
  cases hargs : sub.further with
  | nil => intro arg h; cases h
  | cons first rest =>
    rw [hargs, List.map_cons, Replace.readCount] at hcount
    rw [hargs, List.map_cons, List.tail_cons] at hflags
    refine List.forall_mem_cons.2 ⟨.of_isBare ?_, fun arg harg => .of_isBare ?_⟩
    · split at hcount
      · next hnumeral => exact isBare_of_isNumeral hnumeral
      · cases hcount
    · exact hflags arg.value (List.mem_map_of_mem harg)

theorem arguments_sound : ∀ arg ∈ sub.arguments target, arg.Sound :=
  List.forall_mem_cons.2 ⟨.wrapped _, List.forall_mem_cons.2 ⟨.wrapped _,
    List.forall_mem_cons.2 ⟨.wrapped _, sub.further_sound⟩⟩⟩

theorem find_replace : Registry.builtin.find? (text "replace") = some (.builtin .replace) := rfl

theorem isFieldName_replace : IsFieldName Registry.builtin.knows (text "replace") :=
  ⟨by rw [Registry.knows, find_replace]; rfl, by decide, by decide, not_bracket_of_all (by decide)⟩

/-- The arguments of the replace field are read as what they were written for. -/
theorem parse : parseArguments Replace.spec Replace.readRequest (sub.call target).args
    = .ok ⟨target, sub.search, sub.replacement, sub.count, sub.flags⟩ := by
  have hvalues : argumentValues (sub.call target).args
      = target :: sub.search :: sub.replacement :: sub.further.map WrittenArgument.value :=
    argumentValues_rawArguments (sub.arguments_sound target)
  have htakes : Replace.spec.takes (argumentValues (sub.call target).args).length = true := by
    rw [hvalues]
    simp [FieldSpec.takes, Replace.spec]
  have hread : Replace.readRequest (argumentValues (sub.call target).args)
      = .ok ⟨target, sub.search, sub.replacement, sub.count, sub.flags⟩ := by
    rw [hvalues, Replace.readRequest, sub.readCount]
    dsimp only
    rw [sub.readFlags]
  exact parseArguments_of_read htakes hread

theorem isTarget : IsTarget (sub.source target) (sub.call target) := by
  refine ⟨?_, ?_⟩
  · exact segments_writtenSource isFieldName_replace (sub.arguments_sound target)
  · rw [call, find_replace]
    simp

end Substitution

namespace IsTarget
variable {source : Text} {call : Call} (h : IsTarget source call)
include h

/-- A target is read as the call that it is in a pattern, and evaluated, as it is a known field and no
number. -/
theorem evaluateTarget (request : Replace.Request) (htarget : request.target = source)
    (state : PassState) (item : Item) :
    request.evaluateTarget .builtin state item = call.evaluate .builtin state item := by
  have hmem : .field call ⟨source, 0⟩ ∈ (Pattern.read .builtin (bracketed source)).segments := by
    rw [h.segments]
    exact List.mem_singleton_self _
  obtain ⟨-, hcall, hknown⟩ := (Segment.field_mem_foldr _).1 hmem
  obtain ⟨field, hfind⟩ := Option.isSome_iff_exists.1 hknown
  have hkind : field.kind ≠ .number := by
    refine Registry.standard_builtin.kind_ne_number (Registry.find_mem hfind) ?_
    rintro rfl
    exact h.no_number hfind
  have htargetCall : request.targetCall = call := by
    rw [Replace.Request.targetCall, htarget, hcall]
  rw [Replace.Request.evaluateTarget, htargetCall, Call.evaluate, hfind]
  exact if_neg hkind

/-- A replace field has a value just when its target has one and its regular expression is valid. -/
theorem evaluate_substitution (sub : Substitution) (state : PassState) (item : Item) (value : Text) :
    ((sub.call source).evaluate .builtin state item).1 = .ok (.ok value) ↔
      ∃ inner, (call.evaluate .builtin state item).1 = .ok (.ok inner) ∧
        sub.valueOf? inner = some value := by
  have hcall : (sub.call source).evaluate .builtin state item
      = evaluate .builtin state item (.builtin .replace) (text "replace") (sub.call source).args := rfl
  have htarget := h.evaluateTarget ⟨source, sub.search, sub.replacement, sub.count, sub.flags⟩ rfl
  rw [hcall, evaluate_replace_value_iff, sub.parse source]
  simp only [Except.ok.injEq, exists_and_left, exists_eq_left', htarget]
  refine exists_congr fun inner => and_congr_right fun _ => ?_
  rw [Replace.Request.apply, Substitution.valueOf?]
  cases Regex.ofText? sub.search sub.flags <;> simp

end IsTarget

/-- Written replace fields around a field, each with the one before as its target, make up one field.
It has a value just when the inner field has one and each regular expression is valid: the value of the
inner field with the substitutions applied in turn. -/
theorem substitutions_apply_in_turn {source : Text} {call : Call} (h : IsTarget source call)
    (subs : List Substitution) :
    let written := subs.foldl (fun target sub => sub.source target) source
    ∃ outer, IsTarget written outer ∧ ∀ state item value,
      (outer.evaluate .builtin state item).1 = .ok (.ok value) ↔
        ∃ inner, (call.evaluate .builtin state item).1 = .ok (.ok inner) ∧
          subs.foldlM (fun t sub => sub.valueOf? t) inner = some value := by
  induction subs generalizing source call with
  | nil =>
    refine ⟨call, h, fun state item value => ?_⟩
    simp
  | cons sub rest ih =>
    obtain ⟨outer, houter, hevaluate⟩ := ih (sub.isTarget source)
    refine ⟨outer, houter, fun state item value => ?_⟩
    rw [hevaluate]
    constructor
    · rintro ⟨middle, hmiddle, hrest⟩
      obtain ⟨inner, hinner, happly⟩ := (h.evaluate_substitution sub state item middle).1 hmiddle
      refine ⟨inner, hinner, ?_⟩
      rw [List.foldlM_cons, happly]
      exact hrest
    · rintro ⟨inner, hinner, hall⟩
      rw [List.foldlM_cons] at hall
      obtain ⟨middle, happly, hrest⟩ := Option.bind_eq_some_iff.1 hall
      exact ⟨middle, (h.evaluate_substitution sub state item middle).2 ⟨inner, hinner, happly⟩, hrest⟩

/-- A replace field within another one, with brackets in each of their texts. The inner one has a count
and flags, bare and wrapped. -/
theorem brackets_survive_nesting :
    let inner : Substitution :=
      ⟨text "[a-l]", text "[$&]", [.bare (text "2"), .bare (text "IgnoreCase"), .wrapped (text "u")], 2,
        ⟨true, true, false, false, true, false, false⟩, by decide +kernel, by decide +kernel⟩
    let outer : Substitution :=
      ⟨text "\\]", text "],", [], 0, ⟨true, false, false, false, false, false, false⟩,
        by decide +kernel, by decide +kernel⟩
    let written := outer.source (inner.source (text "layer name"))
    let state := PassState.start [] {} none
    bracketed written = text ("[replace, [replace, [[layer name]], [[[[[[a-l]]]]]], [[[[[[$&]]]]]], 2, "
      ++ "IgnoreCase, [[u]] ], [\\]]], []],] ]") ∧
      ∃ call, IsTarget written call ∧
        (call.evaluate .builtin state (.within [])).1 = .ok (.ok (text "[l],[a],yer")) := by
  intro inner outer written state
  have htarget : IsTarget (text "layer name") ⟨text "layer name", []⟩ := by
    refine ⟨by decide +kernel, fun h => ?_⟩
    cases h
  obtain ⟨call, hcall, hevaluate⟩ := substitutions_apply_in_turn htarget [inner, outer]
  refine ⟨by decide +kernel, call, hcall,
    (hevaluate state (.within []) (text "[l],[a],yer")).2 ⟨text "layer", ?_, ?_⟩⟩
  · decide +kernel
  · decide +kernel

end NamePattern
