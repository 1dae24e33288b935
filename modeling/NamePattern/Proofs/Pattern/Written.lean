import NamePattern.Proofs.Pattern.Doubling
import NamePattern.Proofs.Pattern.Scan

/-!
Calls written from their name and arguments. An argument is wrapped, with its brackets doubled, or it
stands as it is if it has no brackets, commas and blanks. Either way the scan finds the whole call as
one group, the splitting gives the arguments back, and their values are those they were written for.
-/

namespace NamePattern

/-- An argument as it is written. -/
inductive WrittenArgument
  | wrapped (value : Text)
  | bare (value : Text)
  deriving DecidableEq

/-- A value that can be written as it is. -/
structure IsBare (v : Text) : Prop where
  nonempty : v ≠ []
  no_blank : ∀ u ∈ v, isBlank u = false
  no_comma : comma ∉ v
  no_bracket : ∀ u ∈ v, isBracket u = false

namespace WrittenArgument

/-- The value that an argument is written for. -/
def value : WrittenArgument → Text
  | wrapped v | bare v => v

/-- The text of an argument. -/
def written : WrittenArgument → Text
  | wrapped v => bracketed (doubleBrackets v)
  | bare v => v

/-- An argument whose text stands for its value. -/
inductive Sound : WrittenArgument → Prop
  | wrapped (v : Text) : Sound (.wrapped v)
  | bare {v : Text} (h : IsBare v) : Sound (.bare v)

end WrittenArgument

/-- A name that a pattern can call: a known one that is trimmed and has no mark of the language in
it. -/
structure IsFieldName (known : Text → Bool) (name : Text) : Prop where
  known : known name = true
  trimmed : name.trim = name
  no_comma : comma ∉ name
  no_bracket : ∀ u ∈ name, isBracket u = false

/-- The arguments of a written call, of which there is at least one. -/
def writtenArguments (args : List WrittenArgument) : Text :=
  args.flatMap (fun arg => text ", " ++ arg.written) ++ text " "

/-- The text between the brackets of a written call. -/
def writtenSource (name : Text) (args : List WrittenArgument) : Text :=
  if args = [] then name else name ++ writtenArguments args

theorem writtenCall_eq (name : Text) (values : List Text) :
    writtenCall name values = bracketed (writtenSource name (values.map .wrapped)) := by
  cases values with
  | nil => rfl
  | cons v rest =>
    simp only [writtenCall, writtenSource, writtenArguments, List.map_cons,
      if_neg (List.cons_ne_nil _ _), List.flatMap_cons, List.flatMap_map, WrittenArgument.written,
      List.append_assoc]

theorem text_blank : text " " = [unit ' '] := by decide

theorem text_comma_blank : text ", " = [comma, unit ' '] := by decide

theorem blank_not_bracket : isBracket (unit ' ') = false := by decide

theorem isBlank_of_mem {u : CodeUnit} (hu : u ∈ text " ") : isBlank u = true := by
  rw [text_blank, List.mem_singleton] at hu
  subst hu
  decide

/-! ### One argument -/

theorem undouble_of_notMem {u : CodeUnit} {t : Text} (h : u ∉ t) : Text.undouble u t = t := by
  induction t with
  | nil => rfl
  | cons v rest ih =>
    rw [List.mem_cons, not_or] at h
    rw [undouble_other (Ne.symm h.1), ih h.2]

namespace IsBare
variable {v : Text}

theorem of_all (hne : v ≠ [])
    (h : v.all (fun u => !isBlank u && u != comma && !isBracket u) = true) : IsBare v := by
  have hunits : ∀ u ∈ v, (isBlank u = false ∧ u ≠ comma) ∧ isBracket u = false := by
    intro u hu
    simpa using List.all_eq_true.1 h u hu
  exact ⟨hne, fun u hu => (hunits u hu).1.1, fun hc => (hunits comma hc).1.2 rfl,
    fun u hu => (hunits u hu).2⟩

theorem notMem (h : IsBare v) {u : CodeUnit} (hu : isBracket u = true) : u ∉ v := by
  intro hmem
  rw [h.no_bracket u hmem] at hu
  cases hu

theorem head_ne (h : IsBare v) {u : CodeUnit} (hu : isBracket u = true) : v.head? ≠ some u :=
  fun hhead => h.notMem hu (List.mem_of_head? hhead)

theorem argumentValue (h : IsBare v) {front back : Text} (hfront : ∀ u ∈ front, isBlank u = true)
    (hback : ∀ u ∈ back, isBlank u = true) : argumentValue? (front ++ v ++ back) = some v := by
  have htrim : (front ++ v ++ back).trim = v := by
    refine trim_between hfront hback h.nonempty ?_
    rintro u (hu | hu)
    · exact h.no_blank u (List.mem_of_head? hu)
    · exact h.no_blank u (List.mem_of_getLast? hu)
  have hunwrapped : unwrapped v = v := by
    rw [unwrapped, if_neg]
    intro hends
    simp only [Bool.and_eq_true, decide_eq_true_eq] at hends
    exact h.head_ne isBracket_openBracket hends.1
  have hempty : v.isEmpty = false := List.isEmpty_eq_false_iff.2 h.nonempty
  simp only [argumentValue?, htrim, hempty, hunwrapped, undoubleBrackets,
    undouble_of_notMem (h.notMem isBracket_openBracket),
    undouble_of_notMem (h.notMem isBracket_closeBracket)]
  rfl

end IsBare

namespace WrittenArgument.Sound
variable {arg : WrittenArgument}

theorem of_isBare (h : IsBare arg.value) : arg.Sound := by
  cases arg with
  | wrapped v => exact .wrapped v
  | bare v => exact .bare h

theorem written_ne_nil (h : arg.Sound) : arg.written ≠ [] := by
  cases h with
  | wrapped v => exact List.cons_ne_nil _ _
  | bare h => exact h.nonempty

theorem head_written (h : arg.Sound) : arg.written.head? ≠ some closeBracket := by
  cases h with
  | wrapped v => exact head_cons_ne openBracket_ne_closeBracket _
  | bare h => exact h.head_ne isBracket_closeBracket

theorem enclosed_append (h : arg.Sound) {rest : Text} (hd : rest.head? ≠ some closeBracket)
    (hne : rest ≠ []) (hrest : Enclosed 0 rest) : Enclosed 0 (arg.written ++ rest) := by
  cases h with
  | wrapped v => exact hrest.wrapped_append v hd hne
  | bare h => exact .plain_append h.no_bracket hrest

theorem whole (h : arg.Sound) : Whole arg.written := by
  cases h with
  | wrapped v => exact whole_wrapped v
  | bare h => exact whole_plain h.no_bracket h.no_comma

theorem argumentValue (h : arg.Sound) {front back : Text} (hfront : ∀ u ∈ front, isBlank u = true)
    (hback : ∀ u ∈ back, isBlank u = true) :
    argumentValue? (front ++ arg.written ++ back) = some arg.value := by
  cases h with
  | wrapped v => exact argumentValue_wrapped v hfront hback
  | bare h => exact h.argumentValue hfront hback

end WrittenArgument.Sound

/-! ### The call as a group -/

theorem writtenArguments_nil : writtenArguments [] = [unit ' '] := text_blank

theorem writtenArguments_cons (arg : WrittenArgument) (rest : List WrittenArgument) :
    writtenArguments (arg :: rest)
      = comma :: unit ' ' :: (arg.written ++ writtenArguments rest) := by
  simp only [writtenArguments, List.flatMap_cons, text_comma_blank, List.append_assoc,
    List.cons_append, List.nil_append]

/-- What follows an argument keeps its last bracket apart from the one that closes the call. -/
theorem writtenArguments_apart (args : List WrittenArgument) :
    (writtenArguments args).head? ≠ some closeBracket ∧ writtenArguments args ≠ [] := by
  cases args with
  | nil => rw [writtenArguments_nil]; decide
  | cons arg rest =>
    rw [writtenArguments_cons]
    exact ⟨head_cons_ne (Ne.symm (bracket_ne_comma isBracket_closeBracket)) _, List.cons_ne_nil _ _⟩

theorem enclosed_writtenArguments {args : List WrittenArgument} (hargs : ∀ arg ∈ args, arg.Sound) :
    Enclosed 0 (writtenArguments args) := by
  induction args with
  | nil =>
    rw [writtenArguments_nil]
    exact .other blank_not_bracket .done
  | cons arg rest ih =>
    obtain ⟨harg, hrest⟩ := List.forall_mem_cons.1 hargs
    obtain ⟨hd, hne⟩ := writtenArguments_apart rest
    rw [writtenArguments_cons]
    exact .other comma_not_bracket
      (.other blank_not_bracket (harg.enclosed_append hd hne (ih hrest)))

theorem enclosed_writtenSource {name : Text} (hname : ∀ u ∈ name, isBracket u = false)
    {args : List WrittenArgument} (hargs : ∀ arg ∈ args, arg.Sound) :
    Enclosed 0 (writtenSource name args) := by
  rw [writtenSource]
  split
  · rw [← List.append_nil name]
    exact .plain_append hname .done
  · exact .plain_append hname (enclosed_writtenArguments hargs)

/-- Nothing at the start of a written source doubles the bracket that opens the call. -/
theorem head_writtenSource {name : Text} (hname : ∀ u ∈ name, isBracket u = false)
    (args : List WrittenArgument) : (writtenSource name args).head? ≠ some openBracket := by
  cases name with
  | nil =>
    cases args with
    | nil => simp [writtenSource]
    | cons arg more =>
      rw [writtenSource, if_neg (List.cons_ne_nil arg more), writtenArguments_cons]
      exact head_cons_ne (Ne.symm (bracket_ne_comma isBracket_openBracket)) _
  | cons u more =>
    obtain ⟨ho, -⟩ := isBracket_eq_false.1 (hname u List.mem_cons_self)
    rw [writtenSource]
    split <;> simpa using ho

/-! ### The call read back -/

/-- The raw arguments of a written call. The last one has a blank on either side. -/
def rawArguments : List WrittenArgument → List Text
  | [] => []
  | [arg] => [text " " ++ arg.written ++ text " "]
  | arg :: next :: rest => (text " " ++ arg.written) :: rawArguments (next :: rest)

theorem rawArguments_cons (arg next : WrittenArgument) (rest : List WrittenArgument) :
    rawArguments (arg :: next :: rest)
      = (text " " ++ arg.written) :: rawArguments (next :: rest) := rfl

theorem rawArguments_ne_nil {args : List WrittenArgument} (h : args ≠ []) : rawArguments args ≠ [] := by
  rcases args with _ | ⟨arg, _ | ⟨next, rest⟩⟩
  · exact absurd rfl h
  · exact List.cons_ne_nil _ _
  · exact List.cons_ne_nil _ _

theorem writtenArguments_eq_joined {args : List WrittenArgument} (h : args ≠ []) :
    writtenArguments args = comma :: Text.joined [comma] (rawArguments args) := by
  induction args with
  | nil => exact absurd rfl h
  | cons arg rest ih =>
    cases rest with
    | nil =>
      rw [writtenArguments_cons, writtenArguments_nil, rawArguments, joined_singleton, text_blank]
      simp
    | cons next more =>
      rw [writtenArguments_cons, ih (List.cons_ne_nil next more), rawArguments_cons,
        joined_cons (rawArguments_ne_nil (List.cons_ne_nil next more)), text_blank]
      simp

theorem whole_rawArguments {args : List WrittenArgument} (hargs : ∀ arg ∈ args, arg.Sound) :
    ∀ raw ∈ rawArguments args, Whole raw := by
  have hblank : Whole (text " ") := whole_plain (not_bracket_of_all (by decide)) (by decide)
  have hwritten : ∀ arg : WrittenArgument, arg.Sound → Whole (text " " ++ arg.written) :=
    fun arg h => hblank.append h.whole h.written_ne_nil h.head_written
  induction args with
  | nil => intro raw h; cases h
  | cons arg rest ih =>
    obtain ⟨harg, hrest⟩ := List.forall_mem_cons.1 hargs
    cases rest with
    | nil =>
      intro raw h
      rw [rawArguments, List.mem_singleton] at h
      subst h
      exact (hwritten arg harg).append hblank (by decide) (by decide)
    | cons next more =>
      rw [rawArguments_cons]
      exact List.forall_mem_cons.2 ⟨hwritten arg harg, ih hrest⟩

theorem argumentValues_rawArguments {args : List WrittenArgument}
    (hargs : ∀ arg ∈ args, arg.Sound) :
    argumentValues (rawArguments args) = args.map WrittenArgument.value := by
  have hblank : ∀ u ∈ text " ", isBlank u = true := fun _ => isBlank_of_mem
  induction args with
  | nil => rfl
  | cons arg rest ih =>
    obtain ⟨harg, hrest⟩ := List.forall_mem_cons.1 hargs
    cases rest with
    | nil =>
      rw [rawArguments, argumentValues, List.filterMap_cons_some (harg.argumentValue hblank hblank),
        List.filterMap_nil]
      rfl
    | cons next more =>
      have hnil : ∀ u ∈ ([] : Text), isBlank u = true := fun _ h => absurd h List.not_mem_nil
      have hfirst := harg.argumentValue hblank hnil
      rw [List.append_nil] at hfirst
      rw [rawArguments_cons, argumentValues, List.filterMap_cons_some hfirst]
      exact congrArg (arg.value :: ·) (ih hrest)

section
variable {known : Text → Bool} {name : Text} (hname : IsFieldName known name)
  {args : List WrittenArgument} (hargs : ∀ arg ∈ args, arg.Sound)
include hname hargs

/-- A written call has the name and, as they were written, the arguments that it was made of. -/
theorem ofSource_writtenSource :
    Call.ofSource (writtenSource name args) = ⟨name, rawArguments args⟩ := by
  rw [writtenSource]
  split
  · next hnil => rw [ofSource_of_notMem hname.no_comma, hname.trimmed, hnil]; rfl
  · next hne =>
    rw [writtenArguments_eq_joined hne, ofSource_append hname.no_comma, hname.trimmed,
      splitArguments_joined (whole_rawArguments hargs) (rawArguments_ne_nil hne)]

/-- A written call in front of a pattern is a field in front of its segments. -/
theorem segmentsFrom_writtenSource (start : Nat) (rest : Text) :
    segmentsFrom known start (bracketed (writtenSource name args) ++ rest)
      = .field ⟨name, rawArguments args⟩ ⟨writtenSource name args, start⟩ ::
          segmentsFrom known (start + (bracketed (writtenSource name args)).length) rest := by
  have hcall := ofSource_writtenSource hname hargs
  have hknown : known (Call.ofSource (writtenSource name args)).name = true := by
    rw [hcall]
    exact hname.known
  rw [segmentsFrom_call known start (head_writtenSource hname.no_bracket args)
    (enclosed_writtenSource hname.no_bracket hargs) hknown, hcall]

/-- A written call alone is a pattern of one field. -/
theorem segments_writtenSource :
    (Pattern.ofText known (bracketed (writtenSource name args))).segments
      = [.field ⟨name, rawArguments args⟩ ⟨writtenSource name args, 0⟩] := by
  have hsegments := segmentsFrom_writtenSource hname hargs 0 []
  rw [List.append_nil, segmentsFrom_nil] at hsegments
  exact hsegments

end

end NamePattern
