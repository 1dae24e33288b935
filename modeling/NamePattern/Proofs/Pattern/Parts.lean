import NamePattern.Field.Registry
import NamePattern.Proofs.Pattern.RoundTrip

/-!
Patterns written from parts with the arguments as they are. A call ends right after its last argument, so
the bracket that closes a wrapped argument there and the one that closes the call are read as one doubled
bracket: the argument goes on, and no later bracket of the pattern ends the call. Where no call ends in
a wrapped argument, every part is read back.
-/

namespace NamePattern

/-- An argument in brackets, with its own brackets doubled. -/
def IsWrapped (t : Text) : Prop := ∃ v, t = bracketed (doubleBrackets v)

/-- An argument without marks of the language, or a wrapped one. -/
inductive IsWritable : Text → Prop
  | plain {t} (no_bracket : ∀ u ∈ t, isBracket u = false) (no_comma : comma ∉ t) : IsWritable t
  | wrapped (v : Text) : IsWritable (bracketed (doubleBrackets v))

/-- Whether the last of some arguments is wrapped. -/
def EndsWrapped (args : List Text) : Prop := ∃ last, args.getLast? = some last ∧ IsWrapped last

/-- Arguments as they follow a name, with a comma and a blank before each. -/
def furtherArguments (args : List Text) : Text := args.flatMap fun arg => text ", " ++ arg

namespace Part

/-- The raw arguments of a part. -/
def rawArguments : Part → List Text
  | .literal _ => []
  | .field _ args => args.map PartArgument.toText

/-- A part that is written as what it stands for. -/
inductive IsWritable (known : Text → Bool) : Part → Prop
  | literal {t} (no_bracket : ∀ u ∈ t, isBracket u = false) : IsWritable known (.literal t)
  | field {name args} (nonempty : name ≠ []) (hname : IsFieldName known name)
      (hargs : ∀ arg ∈ args, NamePattern.IsWritable arg.toText) : IsWritable known (.field name args)

/-- What a part stands for: output text, or a field with the values of its arguments. -/
def plain : Part → PlainPart
  | .literal t => .literal t
  | .field name args => .field name (argumentValues (rawArguments (.field name args)))

/-- The text of a part that has one. -/
def written : Part → Text
  | .literal t => t
  | .field name args => bracketed (name ++ furtherArguments (rawArguments (.field name args)))

end Part

/-! ### The text -/

theorem furtherArguments_cons (arg : Text) (rest : List Text) :
    furtherArguments (arg :: rest) = comma :: unit ' ' :: (arg ++ furtherArguments rest) := by
  simp only [furtherArguments, List.flatMap_cons, text_comma_blank, List.cons_append,
    List.nil_append]

theorem joined_eq_furtherArguments (name : Text) (args : List Text) :
    Text.joined (text ", ") (name :: args) = name ++ furtherArguments args := by
  induction args generalizing name with
  | nil => rw [joined_singleton, furtherArguments, List.flatMap_nil, List.append_nil]
  | cons arg rest ih =>
    rw [joined_cons (List.cons_ne_nil arg rest), ih arg, furtherArguments_cons, text_comma_blank]
    simp

theorem Part.IsWritable.write {known : Text → Bool} {part : Part} (h : part.IsWritable known) :
    part.write = .ok part.written := by
  cases h with
  | literal _ => rfl
  | @field name args nonempty _ _ =>
    rw [Part.write, if_neg (by simpa using nonempty), joined_eq_furtherArguments]
    rfl

theorem writeParts_eq {known : Text → Bool} {parts : List Part}
    (h : ∀ part ∈ parts, part.IsWritable known) :
    writeParts parts = .ok (parts.flatMap Part.written) := by
  have hmap : parts.mapM Part.write = .ok (parts.map Part.written) := by
    induction parts with
    | nil => rfl
    | cons part rest ih =>
      obtain ⟨hpart, hrest⟩ := List.forall_mem_cons.1 h
      rw [List.mapM_cons, hpart.write, ih hrest]
      rfl
  rw [writeParts, hmap]
  rfl

/-! ### Calls that are read back -/

theorem furtherArguments_apart {args : List Text} (h : args ≠ []) :
    (furtherArguments args).head? ≠ some closeBracket ∧ furtherArguments args ≠ [] := by
  obtain ⟨arg, rest, rfl⟩ := List.exists_cons_of_ne_nil h
  rw [furtherArguments_cons]
  exact ⟨head_cons_ne (Ne.symm (bracket_ne_comma isBracket_closeBracket)) _, List.cons_ne_nil _ _⟩

theorem EndsWrapped.cons {args : List Text} (h : EndsWrapped args) (arg : Text) :
    EndsWrapped (arg :: args) := by
  obtain ⟨last, hlast, hwrapped⟩ := h
  refine ⟨last, ?_, hwrapped⟩
  rw [List.getLast?_cons, hlast]
  rfl

theorem EndsWrapped.of_cons {arg : Text} {rest : List Text} (h : EndsWrapped (arg :: rest))
    (hne : rest ≠ []) : EndsWrapped rest := by
  obtain ⟨next, more, rfl⟩ := List.exists_cons_of_ne_nil hne
  obtain ⟨last, hlast, hwrapped⟩ := h
  exact ⟨last, hlast, hwrapped⟩

/-- Every wrapped argument but the last has a comma after it, which keeps its bracket apart. -/
theorem enclosed_furtherArguments {args : List Text} (hargs : ∀ arg ∈ args, IsWritable arg)
    (hlast : ¬ EndsWrapped args) : Enclosed 0 (furtherArguments args) := by
  induction args with
  | nil => exact .done
  | cons arg rest ih =>
    obtain ⟨harg, hrest⟩ := List.forall_mem_cons.1 hargs
    have hinner := ih hrest fun h => hlast (h.cons arg)
    rw [furtherArguments_cons]
    refine .other comma_not_bracket (.other blank_not_bracket ?_)
    cases harg with
    | plain no_bracket _ => exact .plain_append no_bracket hinner
    | wrapped v =>
      have hne : rest ≠ [] := by
        rintro rfl
        exact hlast ⟨_, rfl, v, rfl⟩
      obtain ⟨hd, hnonempty⟩ := furtherArguments_apart hne
      exact hinner.wrapped_append v hd hnonempty

/-- Arguments with the blank before each that stands after its comma. -/
def spaced (args : List Text) : List Text := args.map (text " " ++ ·)

theorem furtherArguments_eq_joined {args : List Text} (h : args ≠ []) :
    furtherArguments args = comma :: Text.joined [comma] (spaced args) := by
  induction args with
  | nil => exact absurd rfl h
  | cons arg rest ih =>
    rw [furtherArguments_cons, spaced, List.map_cons, text_blank]
    by_cases hnil : rest = []
    · subst hnil
      rw [List.map_nil, joined_singleton, furtherArguments, List.flatMap_nil, List.append_nil]
      rfl
    · have hspaced : rest.map (text " " ++ ·) ≠ [] := by simpa using hnil
      rw [ih hnil, spaced, ← text_blank, joined_cons hspaced, text_blank]
      simp

theorem IsWritable.whole_spaced {arg : Text} (h : IsWritable arg) : Whole (text " " ++ arg) := by
  have hblank : ∀ u ∈ text " ", isBracket u = false := not_bracket_of_all (by decide)
  cases h with
  | plain no_bracket no_comma =>
    refine whole_plain (fun u hu => ?_) fun hc => ?_
    · exact (List.mem_append.1 hu).elim (hblank u) (no_bracket u)
    · exact (List.mem_append.1 hc).elim (by decide) no_comma
  | wrapped v =>
    exact (whole_plain hblank (by decide)).append (whole_wrapped v) (List.cons_ne_nil _ _)
      (head_cons_ne openBracket_ne_closeBracket _)

theorem ofSource_furtherArguments {name : Text} (hcomma : comma ∉ name) (htrim : name.trim = name)
    {args : List Text} (hargs : ∀ arg ∈ args, IsWritable arg) :
    Call.ofSource (name ++ furtherArguments args) = ⟨name, spaced args⟩ := by
  by_cases hnil : args = []
  · subst hnil
    rw [furtherArguments, List.flatMap_nil, List.append_nil, ofSource_of_notMem hcomma, htrim]
    rfl
  · have hspaced : spaced args ≠ [] := by simpa [spaced] using hnil
    have hwhole : ∀ raw ∈ spaced args, Whole raw := by
      intro raw hraw
      obtain ⟨arg, harg, rfl⟩ := List.mem_map.1 hraw
      exact (hargs arg harg).whole_spaced
    rw [furtherArguments_eq_joined hnil, ofSource_append hcomma, htrim,
      splitArguments_joined hwhole hspaced]

/-- The blank after a comma has no part in the value of an argument. -/
theorem argumentValues_spaced (args : List Text) : argumentValues (spaced args) = argumentValues args := by
  have hvalue : argumentValue? ∘ (text " " ++ ·) = argumentValue? := by
    funext arg
    have htrim : (text " " ++ arg).trim = arg.trim := by
      rw [Text.trim, Text.trimStart, List.dropWhile_append_of_pos fun u hu => isBlank_of_mem hu]
      rfl
    rw [Function.comp_apply, argumentValue?, argumentValue?, htrim]
  rw [argumentValues, spaced, List.filterMap_map, hvalue, argumentValues]

/-! ### Calls that are left open -/

/-- A text that ends no group which is open before it, however deep it is open. -/
structure KeepsOpen (t : Text) : Prop where
  head : t.head? ≠ some closeBracket
  unclosed : ∀ n, groupEnd (n + 1) t = none

theorem groupEnd_plain_append {n : Nat} {t rest : Text} (ht : ∀ u ∈ t, isBracket u = false)
    (h : groupEnd n rest = none) : groupEnd n (t ++ rest) = none := by
  induction t with
  | nil => exact h
  | cons u more ih =>
    obtain ⟨hu, hmore⟩ := List.forall_mem_cons.1 ht
    rw [List.cons_append, groupEnd_other hu, ih hmore]
    rfl

theorem groupEnd_doubled_append {n : Nat} {rest : Text} (t : Text)
    (h : groupEnd (n + 1) rest = none) : groupEnd (n + 1) (doubleBrackets t ++ rest) = none := by
  induction t with
  | nil => exact h
  | cons u more ih =>
    rcases bracket_cases u with rfl | rfl | hu
    · rw [doubleBrackets_bracket isBracket_openBracket, List.cons_append, List.cons_append,
        groupEnd_open_pair, ih]
      rfl
    · rw [doubleBrackets_bracket isBracket_closeBracket, List.cons_append, List.cons_append,
        groupEnd_close_pair, ih]
      rfl
    · rw [doubleBrackets_other hu, List.cons_append, groupEnd_other hu, ih]
      rfl

/-- Within an open stretch it is the last of a run of opening brackets that opens a wrapped argument. -/
theorem groupEnd_wrapped_append {n : Nat} {rest : Text} (t : Text)
    (h : groupEnd (n + 2) (closeBracket :: rest) = none) :
    groupEnd (n + 1) (bracketed (doubleBrackets t) ++ rest) = none := by
  simp only [bracketed, List.cons_append, List.append_assoc, List.nil_append]
  induction t with
  | nil =>
    rw [doubleBrackets_nil, List.nil_append,
      groupEnd_open_single (head_cons_ne openBracket_ne_closeBracket.symm rest), h]
    rfl
  | cons u more ih =>
    by_cases ho : u = openBracket
    · subst ho
      rw [doubleBrackets_bracket isBracket_openBracket, List.cons_append, List.cons_append,
        groupEnd_open_pair, ih]
      rfl
    · rw [groupEnd_open_single (head_doubleBrackets_append ho more _),
        groupEnd_doubled_append (u :: more) h]
      rfl

/-- What follows an argument of a call: further ones, or the bracket that closes the call. -/
theorem groupEnd_furtherArguments {rest : Text} (hrest : KeepsOpen rest) {args : List Text}
    (hargs : ∀ arg ∈ args, IsWritable arg) (n : Nat) :
    groupEnd (n + 2) (furtherArguments args ++ closeBracket :: rest) = none := by
  induction args with
  | nil =>
    rw [furtherArguments, List.flatMap_nil, List.nil_append, groupEnd_close_single hrest.head,
      hrest.unclosed]
    rfl
  | cons arg more ih =>
    obtain ⟨harg, hmore⟩ := List.forall_mem_cons.1 hargs
    have hinner := ih hmore
    rw [furtherArguments_cons, List.cons_append, List.cons_append, List.append_assoc,
      groupEnd_other comma_not_bracket, groupEnd_other blank_not_bracket, prependToSplit_eq_none,
      prependToSplit_eq_none]
    cases harg with
    | plain no_bracket _ => exact groupEnd_plain_append no_bracket hinner
    | wrapped v =>
      refine groupEnd_wrapped_append v ?_
      by_cases hnil : more = []
      · subst hnil
        rw [furtherArguments, List.flatMap_nil, List.nil_append, groupEnd_close_pair,
          hrest.unclosed]
        rfl
      · obtain ⟨hd, hne⟩ := furtherArguments_apart hnil
        rw [groupEnd_close_single (head_append_ne hne hd _), hinner]
        rfl

/-- A call that ends in a wrapped argument is never closed: the bracket that should close it is read as
half of a doubled one. -/
theorem groupEnd_of_endsWrapped {rest : Text} (hrest : KeepsOpen rest) {args : List Text}
    (hargs : ∀ arg ∈ args, IsWritable arg) (hlast : EndsWrapped args) :
    groupEnd 0 (furtherArguments args ++ closeBracket :: rest) = none := by
  have hwrapped : ∀ (v next : Text), groupEnd 1 (closeBracket :: next) = none →
      groupEnd 0 (bracketed (doubleBrackets v) ++ next) = none := by
    intro v next h
    simp only [bracketed, List.cons_append, List.append_assoc, List.nil_append]
    rw [groupEnd_open_first, groupEnd_doubled_append v h]
    rfl
  induction args with
  | nil =>
    obtain ⟨last, h, -⟩ := hlast
    cases h
  | cons arg more ih =>
    obtain ⟨harg, hmore⟩ := List.forall_mem_cons.1 hargs
    rw [furtherArguments_cons, List.cons_append, List.cons_append, List.append_assoc,
      groupEnd_other comma_not_bracket, groupEnd_other blank_not_bracket, prependToSplit_eq_none,
      prependToSplit_eq_none]
    by_cases hnil : more = []
    · subst hnil
      obtain ⟨last, h, v, rfl⟩ := hlast
      obtain rfl := Option.some.inj h
      rw [furtherArguments, List.flatMap_nil, List.nil_append]
      refine hwrapped v _ ?_
      rw [groupEnd_close_pair, hrest.unclosed]
      rfl
    · have hinner := ih hmore (hlast.of_cons hnil)
      cases harg with
      | plain no_bracket _ => exact groupEnd_plain_append no_bracket hinner
      | wrapped v =>
        obtain ⟨hd, hne⟩ := furtherArguments_apart hnil
        refine hwrapped v _ ?_
        rw [groupEnd_close_single (head_append_ne hne hd _), hinner]
        rfl

/-- Nothing in a name doubles the bracket in front of it. -/
theorem head_name_append {known : Text → Bool} {name : Text} (hname : IsFieldName known name)
    (nonempty : name ≠ []) (rest : Text) : (name ++ rest).head? ≠ some openBracket := by
  refine head_append_ne nonempty (fun hhead => ?_) rest
  exact (isBracket_eq_false.1 (hname.no_bracket _ (List.mem_of_head? hhead))).1 rfl

theorem keepsOpen_written {known : Text → Bool} {parts : List Part}
    (h : ∀ part ∈ parts, part.IsWritable known) : KeepsOpen (parts.flatMap Part.written) := by
  induction parts with
  | nil => exact ⟨by simp, fun n => rfl⟩
  | cons part rest ih =>
    obtain ⟨hpart, hrest⟩ := List.forall_mem_cons.1 h
    have hopen := ih hrest
    rw [List.flatMap_cons]
    cases hpart with
    | @literal t no_bracket =>
      refine ⟨?_, fun n => groupEnd_plain_append no_bracket (hopen.unclosed n)⟩
      cases t with
      | nil => exact hopen.head
      | cons u more =>
        exact head_cons_ne (isBracket_eq_false.1 (no_bracket u List.mem_cons_self)).2 _
    | @field name args nonempty hname hargs =>
      have hraw : ∀ arg ∈ args.map PartArgument.toText, IsWritable arg :=
        List.forall_mem_map.2 hargs
      refine ⟨head_cons_ne openBracket_ne_closeBracket _, fun n => ?_⟩
      simp only [Part.written, Part.rawArguments, bracketed, List.cons_append, List.append_assoc,
        List.nil_append]
      rw [groupEnd_open_single (head_name_append hname nonempty _), prependToSplit_eq_none]
      exact groupEnd_plain_append hname.no_bracket (groupEnd_furtherArguments hopen hraw n)

/-! ### Parts read back -/

theorem doubleBrackets_plain {t : Text} (ht : ∀ u ∈ t, isBracket u = false) :
    doubleBrackets t = t := by
  induction t with
  | nil => rfl
  | cons u more ih =>
    obtain ⟨hu, hmore⟩ := List.forall_mem_cons.1 ht
    rw [doubleBrackets_other hu, ih hmore]

theorem plain_segments_bare_literal (known : Text → Bool) {t : Text}
    (ht : ∀ u ∈ t, isBracket u = false) (rest : Text) (start : Nat) :
    (segmentsFrom known start (t ++ rest)).map Segment.plain
      = PlainPart.prepend (.literal t)
          ((segmentsFrom known (start + t.length) rest).map Segment.plain) := by
  have hplain := plain_segments_literal known t rest start
  rwa [writtenLiteral, doubleBrackets_plain ht] at hplain

section
variable {known : Text → Bool} {name : Text} {args : List PartArgument}
  (hpart : Part.IsWritable known (.field name args)) (start : Nat)
include hpart

theorem Part.IsWritable.rawArguments :
    ∀ arg ∈ rawArguments (.field name args), NamePattern.IsWritable arg := by
  cases hpart with
  | field _ _ hargs => exact List.forall_mem_map.2 hargs

/-- A call that does not end in a wrapped argument is its field in front of the segments. -/
theorem segmentsFrom_written_field (hlast : ¬ EndsWrapped (Part.rawArguments (.field name args)))
    (rest : Text) :
    (segmentsFrom known start (Part.written (.field name args) ++ rest)).map Segment.plain
      = Part.plain (.field name args) ::
          (segmentsFrom known (start + (Part.written (.field name args)).length) rest).map
            Segment.plain := by
  have hraw := hpart.rawArguments
  cases hpart with
  | field nonempty hname _ =>
    have hcall := ofSource_furtherArguments hname.no_comma hname.trimmed hraw
    have hknown : known (Call.ofSource (name ++ furtherArguments
        (Part.rawArguments (.field name args)))).name = true := by
      rw [hcall]
      exact hname.known
    have henclosed := Enclosed.plain_append hname.no_bracket (enclosed_furtherArguments hraw hlast)
    rw [Part.written, segmentsFrom_call known start (head_name_append hname nonempty _) henclosed
      hknown, List.map_cons,
      Segment.plain, hcall, argumentValues_spaced]
    rfl

/-- From a call that ends in a wrapped argument on, the whole pattern is output text. -/
theorem segmentsFrom_written_endsWrapped
    (hlast : EndsWrapped (Part.rawArguments (.field name args))) {rest : Text}
    (hrest : KeepsOpen rest) :
    segmentsFrom known start (Part.written (.field name args) ++ rest)
      = [.literal (Part.written (.field name args) ++ rest)] := by
  have hraw := hpart.rawArguments
  cases hpart with
  | field nonempty hname _ =>
    have hend := groupEnd_plain_append hname.no_bracket (groupEnd_of_endsWrapped hrest hraw hlast)
    simp only [Part.written, bracketed, List.cons_append, List.append_assoc, List.nil_append]
    exact segmentsFrom_unclosed known start (head_name_append hname nonempty _) hend

end

/-- Parts in front of a pattern are read back, if none of their calls ends in a wrapped argument. -/
theorem plain_segments_append {known : Text → Bool} {parts : List Part}
    (h : ∀ part ∈ parts, part.IsWritable known)
    (hlast : ∀ part ∈ parts, ¬ EndsWrapped part.rawArguments) (rest : Text) (start : Nat) :
    (segmentsFrom known start (parts.flatMap Part.written ++ rest)).map Segment.plain
      = (parts.map Part.plain).foldr PlainPart.prepend
          ((segmentsFrom known (start + (parts.flatMap Part.written).length) rest).map
            Segment.plain) := by
  induction parts generalizing start with
  | nil => rfl
  | cons part more ih =>
    obtain ⟨hpart, hmore⟩ := List.forall_mem_cons.1 h
    obtain ⟨hfirst, hothers⟩ := List.forall_mem_cons.1 hlast
    have hinner := ih hmore hothers
    rw [List.flatMap_cons, List.append_assoc, List.map_cons, List.foldr_cons, List.length_append,
      ← Nat.add_assoc]
    cases part with
    | literal t =>
      cases hpart with
      | literal no_bracket =>
        rw [Part.written, plain_segments_bare_literal known no_bracket, hinner]
        rfl
    | field name args =>
      rw [segmentsFrom_written_field hpart start hfirst, hinner]
      rfl

namespace PlainPart

/-- Whether a part is a field. -/
def isField : PlainPart → Bool
  | literal _ => false
  | field _ _ => true

theorem countP_prepend (part : PlainPart) (parts : List PlainPart) :
    (prepend part parts).countP isField = (part :: parts).countP isField := by
  rcases part with (_ | ⟨u, t⟩) | ⟨name, values⟩
  · rfl
  · rcases parts with _ | ⟨_ | _, _⟩ <;> rfl
  · rfl

/-- Bringing literals together leaves every field in place. -/
theorem countP_foldr_prepend (parts after : List PlainPart) :
    (parts.foldr prepend after).countP isField = parts.countP isField + after.countP isField := by
  induction parts with
  | nil => rw [List.foldr_nil, List.countP_nil, Nat.zero_add]
  | cons part rest ih =>
    rw [List.foldr_cons, countP_prepend, List.countP_cons, List.countP_cons, ih]
    omega

end PlainPart

/-- Where a call ends in a wrapped argument, fewer fields are read than there are parts that are
fields. -/
theorem countP_segments_of_endsWrapped {known : Text → Bool} {before after : List Part} {part : Part}
    (h : ∀ x ∈ before ++ part :: after, x.IsWritable known)
    (hbefore : ∀ x ∈ before, ¬ EndsWrapped x.rawArguments)
    (hlast : EndsWrapped part.rawArguments) :
    ((segmentsFrom known 0 ((before ++ part :: after).flatMap Part.written)).map
        Segment.plain).countP PlainPart.isField
      < ((before ++ part :: after).map Part.plain).countP PlainPart.isField := by
  obtain ⟨hfront, hpart, hafter⟩ : (∀ x ∈ before, x.IsWritable known) ∧ part.IsWritable known ∧
      ∀ x ∈ after, x.IsWritable known := by
    simpa only [List.forall_mem_append, List.forall_mem_cons] using h
  rw [List.flatMap_append, List.flatMap_cons, plain_segments_append hfront hbefore,
    PlainPart.countP_foldr_prepend, List.map_append, List.map_cons, List.countP_append,
    List.countP_cons]
  cases part with
  | literal t =>
    obtain ⟨last, hnone, -⟩ := hlast
    cases hnone
  | field name args =>
    rw [segmentsFrom_written_endsWrapped hpart _ hlast (keepsOpen_written hafter)]
    simp [Part.plain, Segment.plain, PlainPart.isField]

/-- A pattern written from parts has exactly these parts again, empty literals apart and adjacent ones
as one, if and only if no call among them ends in a wrapped argument. -/
theorem written_parts_read_back_iff (known : Text → Bool) (parts : List Part)
    (h : ∀ part ∈ parts, part.IsWritable known) :
    ∃ t, writeParts parts = .ok t ∧
      ((Pattern.ofText known t).segments.map Segment.plain = PlainPart.merged (parts.map Part.plain) ↔
        ∀ part ∈ parts, ¬ EndsWrapped part.rawArguments) := by
  refine ⟨_, writeParts_eq h, ?_⟩
  rw [segments_ofText]
  constructor
  · intro hread part hmem hwrapped
    classical
    -- the first such call leaves the rest of the pattern without a field
    obtain ⟨first, hfind⟩ : ∃ first, parts.find? (fun part => EndsWrapped part.rawArguments)
        = some first := by
      rw [← Option.isSome_iff_exists, List.find?_isSome]
      exact ⟨part, hmem, decide_eq_true hwrapped⟩
    obtain ⟨hlast, before, after, rfl, hbefore⟩ := List.find?_eq_some_iff_append.1 hfind
    have hless := countP_segments_of_endsWrapped h (by simpa using hbefore) (by simpa using hlast)
    rw [hread, PlainPart.merged, PlainPart.countP_foldr_prepend] at hless
    exact Nat.lt_irrefl _ hless
  · intro hlast
    have hread := plain_segments_append h hlast [] 0
    rwa [List.append_nil, segmentsFrom_nil] at hread

/-- Wrapped arguments in front of one without marks, and literals around the call. -/
theorem wrapped_before_plain_reads_back :
    ∃ t, writeParts [.literal (text "a"),
        .field (text "n") [.content (text "[[[,]"), .content (text "[]]]"), .content (text "b")],
        .literal [], .literal (text "c")] = .ok t ∧
      (Pattern.ofText (· == text "n") t).segments.map Segment.plain
        = [.literal (text "a"), .field (text "n") [text "[,", text "]", text "b"],
            .literal (text "c")] := by
  have hname : IsFieldName (· == text "n") (text "n") :=
    ⟨by decide, by decide, by decide, not_bracket_of_all (by decide)⟩
  have hargs : ∀ arg ∈ [PartArgument.content (text "[[[,]"), .content (text "[]]]"),
      .content (text "b")], IsWritable arg.toText := by
    have hfirst : text "[[[,]" = bracketed (doubleBrackets (text "[,")) := by decide
    have hsecond : text "[]]]" = bracketed (doubleBrackets (text "]")) := by decide
    simp only [List.forall_mem_cons, PartArgument.toText, hfirst, hsecond]
    exact ⟨.wrapped _, .wrapped _, .plain (not_bracket_of_all (by decide)) (by decide), by simp⟩
  obtain ⟨t, hwrite, hread⟩ := written_parts_read_back_iff (· == text "n") [.literal (text "a"),
    .field (text "n") [.content (text "[[[,]"), .content (text "[]]]"), .content (text "b")],
    .literal [], .literal (text "c")] (by
      simp only [List.forall_mem_cons]
      exact ⟨.literal (not_bracket_of_all (by decide)), .field (by decide) hname hargs,
        .literal (by simp), .literal (not_bracket_of_all (by decide)), by simp⟩)
  refine ⟨t, hwrite, (hread.2 ?_).trans (by decide +kernel)⟩
  have hnone : ¬ EndsWrapped [] := fun ⟨_, h, _⟩ => by cases h
  have hplain : ¬ EndsWrapped [text "[[[,]", text "[]]]", text "b"] := by
    rintro ⟨last, hlast, v, rfl⟩
    have hhead : (text "b").head? = some openBracket := congrArg (Option.bind · List.head?) hlast
    exact absurd hhead (by decide)
  simp only [List.forall_mem_cons]
  exact ⟨hnone, hplain, hnone, hnone, by simp⟩

/-- The call of a known field with one wrapped argument is read as output text. -/
theorem wrapped_last_argument_is_lost :
    ∃ parts : List Part, (∀ part ∈ parts, part.IsWritable Registry.builtin.knows) ∧
      ∃ t, writeParts parts = .ok t ∧ t = text "[layer name, [%e]]" ∧
        (Pattern.ofText Registry.builtin.knows t).segments = [.literal (text "[layer name, [%e]]")] ∧
        parts.map Part.plain = [.field (text "layer name") [text "%e"]] := by
  refine ⟨[.field (text "layer name") [.content (text "[%e]")]], ?_, text "[layer name, [%e]]",
    by rfl, rfl, by decide +kernel, by rfl⟩
  have hwrapped : text "[%e]" = bracketed (doubleBrackets (text "%e")) := by decide
  simp only [List.forall_mem_cons, hwrapped]
  refine ⟨.field (by decide) ⟨by decide +kernel, by decide, by decide,
    not_bracket_of_all (by decide)⟩ ?_, by simp⟩
  simp only [List.forall_mem_cons, PartArgument.toText]
  exact ⟨.wrapped _, by simp⟩

end NamePattern
