import NamePattern.Proofs.Evaluation.Substitution
import NamePattern.Proofs.Numbering.Format
import NamePattern.Proofs.Numbering.Sole
import NamePattern.Proofs.Pattern.Parts

/-!
Counting down from the number of items. Zeros with an argument that counts down begin at the total of the
scope, which is known before the pass; one step for each item of the scope then brings the last of them to
one. So each scope is numbered as by counting up from one, in reverse.
-/

namespace NamePattern

/-! ### A number field alone -/

/-- A number field as it is written, with a comma and a blank before each argument. -/
def writtenNumber (digits : Text) (args : List Text) : Text :=
  bracketed (Text.joined (text ", ") (digits :: args))

theorem IsBare.trim_eq {v : Text} (h : IsBare v) : v.trim = v := by
  have htrim := trim_between (List.forall_mem_nil _) (List.forall_mem_nil _) h.nonempty fun u hu =>
    h.no_blank u (hu.elim List.mem_of_head? List.mem_of_getLast?)
  rwa [List.nil_append, List.append_nil] at htrim

theorem argumentValues_of_isBare {args : List Text} (h : ∀ arg ∈ args, IsBare arg) :
    argumentValues args = args := by
  induction args with
  | nil => rfl
  | cons arg rest ih =>
    obtain ⟨harg, hrest⟩ := List.forall_mem_cons.1 h
    have hvalue := harg.argumentValue (List.forall_mem_nil _) (List.forall_mem_nil _)
    rw [List.nil_append, List.append_nil] at hvalue
    rw [argumentValues, List.filterMap_cons_some hvalue]
    exact congrArg (arg :: ·) (ih hrest)

theorem isFieldName_of_isNumeral {digits : Text} (h : digits.isNumeral = true) :
    IsFieldName Registry.builtin.knows digits := by
  have hbare := isBare_of_isNumeral h
  refine ⟨?_, hbare.trim_eq, hbare.no_comma, hbare.no_bracket⟩
  rw [Registry.knows, Registry.find_builtin_numeral h]
  rfl

section
variable {digits : Text} (hdigits : digits.isNumeral = true) {args : List Text}
  (hargs : ∀ arg ∈ args, IsBare arg)
include hdigits hargs

theorem segments_writtenNumber :
    (Pattern.read .builtin (writtenNumber digits args)).segments
      = [.field ⟨digits, spaced args⟩ ⟨digits ++ furtherArguments args, 0⟩] := by
  have hname := isFieldName_of_isNumeral hdigits
  have hwritable : ∀ arg ∈ args, IsWritable arg :=
    fun arg harg => .plain (hargs arg harg).no_bracket (hargs arg harg).no_comma
  have hlast : ¬ EndsWrapped args := by
    rintro ⟨last, hlast, v, rfl⟩
    have hbare := hargs _ (List.mem_of_getLast? hlast)
    exact hbare.notMem isBracket_openBracket List.mem_cons_self
  have hcall := ofSource_furtherArguments hname.no_comma hname.trimmed hwritable
  have hknown : Registry.builtin.knows (Call.ofSource (digits ++ furtherArguments args)).name
      = true := by
    rw [hcall]
    exact hname.known
  have hsegments := segmentsFrom_call Registry.builtin.knows 0
    (head_name_append hname (isBare_of_isNumeral hdigits).nonempty _)
    (Enclosed.plain_append hname.no_bracket (enclosed_furtherArguments hwritable hlast)) hknown []
  rw [List.append_nil, segmentsFrom_nil, hcall] at hsegments
  rw [writtenNumber, joined_eq_furtherArguments, Pattern.read, segments_ofText, hsegments]

/-- A written number field with arguments that it can read is a pattern of one number. -/
theorem soleNumber_writtenNumber (hcount : args.length ≤ 2) {options : Number.Options}
    (hread : Number.readOptions args = .ok options) :
    (Pattern.read .builtin (writtenNumber digits args)).soleNumber?
      = some ⟨[], ⟨digits, options⟩, []⟩ := by
  have hvalues : argumentValues (spaced args) = args :=
    (argumentValues_spaced args).trans (argumentValues_of_isBare hargs)
  have hparse : parseArguments Number.spec Number.readOptions (spaced args) = .ok options := by
    refine parseArguments_of_read ?_ (by rw [hvalues, hread])
    rw [hvalues]
    simpa [FieldSpec.takes, Number.spec] using hcount
  rw [Pattern.soleNumber?, segments_writtenNumber hdigits hargs, Segment.soleNumber?,
    Segment.number?, if_pos hdigits, hparse]
  rfl

end

/-! ### Down and up -/

/-- Zeros that count down from the number of items in a scope. -/
def countdown (width : Nat) (acrossGroups : Bool) : NumberUse :=
  ⟨List.replicate width (digit 0), ⟨acrossGroups, true, none⟩⟩

/-- A number of the same width that counts up from one. -/
def countup (width : Nat) (acrossGroups : Bool) : NumberUse :=
  ⟨List.replicate (width - 1) (digit 0) ++ [digit 1], ⟨acrossGroups, false, none⟩⟩

/-- The arguments of a number that goes on across groups or counts down. -/
def numberArguments (acrossGroups descending : Bool) : List Text :=
  (if acrossGroups then [Number.acrossGroupsArgument] else [])
    ++ if descending then [Number.descendingArgument] else []

theorem isBare_numberArguments (acrossGroups descending : Bool) :
    ∀ arg ∈ numberArguments acrossGroups descending, IsBare arg := by
  have hunits : ∀ arg ∈ numberArguments acrossGroups descending,
      arg ≠ [] ∧ arg.all (fun u => !isBlank u && u != comma && !isBracket u) = true := by
    cases acrossGroups <;> cases descending <;> decide
  exact fun arg harg => .of_all (hunits arg harg).1 (hunits arg harg).2

theorem isNumeral_countdown {width : Nat} (hwidth : 1 ≤ width) (acrossGroups : Bool) :
    (countdown width acrossGroups).digits.isNumeral = true := by
  have hne : List.replicate width (digit 0) ≠ [] := by
    rw [Ne, List.replicate_eq_nil_iff]
    omega
  rw [countdown, Text.isNumeral, Text.all_zeros, List.isEmpty_eq_false_iff.2 hne]
  rfl

theorem isNumeral_countup (width : Nat) (acrossGroups : Bool) :
    (countup width acrossGroups).digits.isNumeral = true := by
  have hne : List.replicate (width - 1) (digit 0) ++ [digit 1] ≠ [] := by simp
  rw [countup, Text.isNumeral, List.all_append, Text.all_zeros, List.isEmpty_eq_false_iff.2 hne]
  decide

/-- Zeros stand for the total. -/
theorem counter_countdown (width : Nat) (acrossGroups : Bool) (total : Nat) :
    (countdown width acrossGroups).counter total = ⟨total, width, -1⟩ := by
  have hzero : Text.toNat (List.replicate width (digit 0)) = 0 := by
    have hzeros := Text.toNat_zeros_append width []
    rwa [List.append_nil] at hzeros
  rw [NumberUse.counter, Number.Options.counter, Counter.mk.injEq]
  refine ⟨if_pos ?_, List.length_replicate, rfl⟩
  rw [countdown, hzero]
  rfl

theorem counter_countup {width : Nat} (hwidth : 1 ≤ width) (acrossGroups : Bool) (total : Nat) :
    (countup width acrossGroups).counter total = ⟨1, width, 1⟩ := by
  have hone : Text.toNat (List.replicate (width - 1) (digit 0) ++ [digit 1]) = 1 := by
    rw [Text.toNat_zeros_append]
    decide
  have hlength : (List.replicate (width - 1) (digit 0) ++ [digit 1]).length = width := by
    rw [List.length_append, List.length_replicate]
    exact Nat.sub_add_cancel hwidth
  rw [NumberUse.counter, Number.Options.counter, countup, hone, Counter.mk.injEq]
  exact ⟨rfl, hlength, rfl⟩

theorem textAt_countdown (width : Nat) (acrossGroups : Bool) (total count : Nat) :
    (countdown width acrossGroups).textAt total count = Number.format (total - count) width := by
  have hcounter := counter_countdown width acrossGroups total
  have hvalue : (countdown width acrossGroups).valueAt total count = total - count := by
    simp only [NumberUse.valueAt, hcounter, Counter.after]
    omega
  have hwidth : (countdown width acrossGroups).width = width := congrArg Counter.padding hcounter
  rw [NumberUse.textAt, hvalue, hwidth]

theorem textAt_countup {width : Nat} (hwidth : 1 ≤ width) (acrossGroups : Bool) (total count : Nat) :
    (countup width acrossGroups).textAt total count = Number.format (1 + count) width := by
  have hcounter := counter_countup hwidth acrossGroups total
  have hvalue : (countup width acrossGroups).valueAt total count = 1 + count := by
    simp only [NumberUse.valueAt, hcounter, Counter.after]
    omega
  have hpadding : (countup width acrossGroups).width = width := congrArg Counter.padding hcounter
  rw [NumberUse.textAt, hvalue, hpadding]

/-- Counting up a scope to its total gives the numbers from one to the total. -/
theorem map_textAt_countup (before after : Text) {width : Nat} (hwidth : 1 ≤ width)
    (acrossGroups : Bool) (total : Nat) :
    (List.range total).map (SoleNumber.textAt ⟨before, countup width acrossGroups, after⟩ total)
      = (List.range' 1 total).map fun n : Nat => before ++ Number.format n width ++ after := by
  rw [List.range'_eq_map_range, List.map_map]
  refine List.map_congr_left fun count _ => ?_
  rw [SoleNumber.textAt, textAt_countup hwidth, Function.comp_apply, Int.natCast_add]
  rfl

/-- Counting down a scope from its total mirrors counting up to it. -/
theorem map_textAt_countdown (before after : Text) {width : Nat} (hwidth : 1 ≤ width)
    (acrossGroups : Bool) (total : Nat) :
    (List.range total).map (SoleNumber.textAt ⟨before, countdown width acrossGroups, after⟩ total)
      = ((List.range total).map
          (SoleNumber.textAt ⟨before, countup width acrossGroups, after⟩ total)).reverse := by
  rw [← List.map_reverse, List.range_eq_range', List.reverse_range', List.map_map,
    ← List.range_eq_range']
  refine List.map_congr_left fun count hcount => ?_
  have hlt := List.mem_range.1 hcount
  have hmirror : (1 : Int) + (0 + total - 1 - count : Nat) = total - count := by omega
  simp only [Function.comp_apply, SoleNumber.textAt, textAt_countdown, textAt_countup hwidth, hmirror]

/-- In every scope, zeros that count down give the texts that counting up from one gives, in reverse: these
are the numbers from one to the number of items, so that the last item gets the number one. Among the
patterns of such numbers are the fields alone, written with the arguments `%n` and `%d`. -/
theorem counting_down_reverses_counting_up {width : Nat} (hwidth : 1 ≤ width)
    (acrossGroups : Bool) :
    let zeros := countdown width acrossGroups
    let one := countup width acrossGroups
    (Pattern.read .builtin (writtenNumber zeros.digits (numberArguments acrossGroups true))).soleNumber?
        = some ⟨[], zeros, []⟩ ∧
      (Pattern.read .builtin (writtenNumber one.digits (numberArguments acrossGroups false))).soleNumber?
        = some ⟨[], one, []⟩ ∧
      ∀ (down up : Pattern) (before after : Text), down.soleNumber? = some ⟨before, zeros, after⟩ →
        up.soleNumber? = some ⟨before, one, after⟩ →
        ∀ items options now, ∃ downTexts upTexts,
          down.render .builtin items options now = .ok downTexts ∧
          up.render .builtin items options now = .ok upTexts ∧
          downTexts.length = items.length ∧ upTexts.length = items.length ∧
          ∀ scope,
            let total := items.countP fun item => scopePath acrossGroups item = scope
            let numberText := fun n : Nat => before ++ Number.format n width ++ after
            textsIn acrossGroups scope items upTexts = (List.range' 1 total).map numberText ∧
              textsIn acrossGroups scope items downTexts
                = (textsIn acrossGroups scope items upTexts).reverse ∧
              (0 < total →
                (textsIn acrossGroups scope items downTexts).getLast? = some (numberText 1)) := by
  intro zeros one
  refine ⟨?_, ?_, fun down up before after hdown hup items options now => ?_⟩
  · refine soleNumber_writtenNumber (isNumeral_countdown hwidth acrossGroups)
      (isBare_numberArguments acrossGroups true) ?_ ?_ <;> cases acrossGroups <;> decide
  · refine soleNumber_writtenNumber (isNumeral_countup width acrossGroups)
      (isBare_numberArguments acrossGroups false) ?_ ?_ <;> cases acrossGroups <;> decide
  obtain ⟨downTexts, hdownTexts, hdownLength, hdownScope⟩ :=
    Pattern.textsIn_of_soleNumber hdown items options now
  obtain ⟨upTexts, hupTexts, hupLength, hupScope⟩ :=
    Pattern.textsIn_of_soleNumber hup items options now
  refine ⟨downTexts, upTexts, hdownTexts, hupTexts, hdownLength, hupLength, fun scope => ?_⟩
  intro total numberText
  have hnumbers : textsIn acrossGroups scope items upTexts = (List.range' 1 total).map numberText :=
    (hupScope scope).trans (map_textAt_countup before after hwidth acrossGroups total)
  have hreverse : textsIn acrossGroups scope items downTexts
      = (textsIn acrossGroups scope items upTexts).reverse := by
    refine (hdownScope scope).trans ?_
    rw [map_textAt_countdown before after hwidth]
    exact congrArg List.reverse (hupScope scope).symm
  refine ⟨hnumbers, hreverse, fun hpos => ?_⟩
  obtain ⟨rest, hrest⟩ := Nat.exists_eq_add_of_lt hpos
  rw [hreverse, hnumbers, hrest, List.getLast?_reverse]
  simp [List.range'_succ]

/-- Groups that take turns are counted down to one each, and as a whole if the number goes on across
groups. -/
theorem interleaved_groups_end_at_one :
    let a := Item.within [text "a"]
    let b := Item.within [text "b"]
    let down := Pattern.read .builtin (text "[00, %d]")
    let up := Pattern.read .builtin (text "[01]")
    let across := Pattern.read .builtin (text "[0, %n, %d]")
    (∃ downTexts upTexts, down.render .builtin [a, b, a] {} none = .ok downTexts ∧
      up.render .builtin [a, b, a] {} none = .ok upTexts ∧
      textsIn false (some [text "a"]) [a, b, a] upTexts = [text "01", text "02"] ∧
      textsIn false (some [text "a"]) [a, b, a] downTexts = [text "02", text "01"]) ∧
    ∃ texts, across.render .builtin [a, b, a] {} none = .ok texts ∧
      (textsIn true none [a, b, a] texts).getLast? = some (text "1") := by
  intro a b down up across
  obtain ⟨hdown, hup, hgroups⟩ :=
    counting_down_reverses_counting_up (by decide : 1 ≤ 2) false
  obtain ⟨hacross, hone, hall⟩ := counting_down_reverses_counting_up (by decide : 1 ≤ 1) true
  obtain ⟨downTexts, upTexts, hdownTexts, hupTexts, -, -, hscope⟩ :=
    hgroups _ _ [] [] hdown hup [a, b, a] {} none
  obtain ⟨texts, _, htexts, -, -, -, hlast⟩ := hall _ _ [] [] hacross hone [a, b, a] {} none
  obtain ⟨hnumbers, hreverse, -⟩ := hscope (some [text "a"])
  obtain ⟨-, -, hlastOne⟩ := hlast none
  have hdownSource : writtenNumber (countdown 2 false).digits (numberArguments false true)
      = text "[00, %d]" := by decide
  have hupSource : writtenNumber (countup 2 false).digits (numberArguments false false)
      = text "[01]" := by decide
  have hacrossSource : writtenNumber (countdown 1 true).digits (numberArguments true true)
      = text "[0, %n, %d]" := by decide
  rw [hdownSource] at hdownTexts
  rw [hupSource] at hupTexts
  rw [hacrossSource] at htexts
  rw [hnumbers] at hreverse
  have htextsOfA : (List.range' 1 (([a, b, a] : List Item).countP fun item =>
      scopePath false item = some [text "a"])).map
        (fun n : Nat => [] ++ Number.format n 2 ++ []) = [text "01", text "02"] := by
    decide +kernel
  rw [htextsOfA] at hnumbers hreverse
  exact ⟨⟨downTexts, upTexts, hdownTexts, hupTexts, hnumbers, hreverse⟩, texts, htexts,
    (hlastOne (by decide)).trans (by decide +kernel)⟩

end NamePattern
