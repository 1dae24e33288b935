import NamePattern.Proofs.Evaluation.Fault
import NamePattern.Proofs.Evaluation.Substitution
import NamePattern.Proofs.Pattern.Dropped
import NamePattern.Proofs.Pattern.OuterComma
import NamePattern.Proofs.Pattern.Groups

/-!
Targets that are no fields. Between brackets of its own a text makes up a field if its brackets match and
its name is known. The target of a replace field is looked up by name, but no scan has gone over it, so
unmatched brackets behind a known name pass: the target has the value of whatever call the splitter makes of
it. An argument that is never closed has no part in that call.
-/

namespace NamePattern

/-- A text that makes up a pattern of one field when it is put between brackets. -/
def ReadsAsField (t : Text) : Prop :=
  ∃ call, (Pattern.read .builtin (bracketed t)).segments = [.field call ⟨t, 0⟩]

/-! ### Texts that read as a field -/

/-- No name of a built-in field has a bracket. -/
theorem Registry.not_bracket_of_knows {name : Text} (h : builtin.knows name = true) :
    ∀ u ∈ name, isBracket u = false := by
  obtain ⟨field, hfind⟩ := Option.isSome_iff_exists.1 h
  obtain ⟨kind, rfl⟩ := standard_builtin field (find_mem hfind)
  have hgoes := goesBy_of_find hfind
  cases kind with
  | number => exact (isBare_of_isNumeral hgoes).no_bracket
  | _ =>
    rw [beq_iff_eq.1 hgoes]
    exact not_bracket_of_all (by decide)

theorem name_ofSource (source : Text) : (Call.ofSource source).name = (source.cutAt comma).1.trim := by
  rw [Call.ofSource]
  rcases source.cutAt comma with ⟨before, _ | after⟩ <;> rfl

/-- A known name does not begin with a bracket, so the text is not taken for a doubled one. -/
theorem head_of_knows {source : Text} (h : Registry.builtin.knows (Call.ofSource source).name = true) :
    source.head? ≠ some openBracket := by
  intro hopen
  obtain ⟨rest, rfl⟩ := List.head?_eq_some_iff.1 hopen
  have hmem : openBracket ∈ (Call.ofSource (openBracket :: rest)).name := by
    rw [name_ofSource, Text.cutAt, if_neg (by decide)]
    exact mem_trim List.mem_cons_self (isBlank_of_bracket isBracket_openBracket)
  have hplain := Registry.not_bracket_of_knows h openBracket hmem
  rw [isBracket_openBracket] at hplain
  cases hplain

/-- The field of a pattern of one field is the call of a group in it. -/
theorem field_of_singleton {p : Text} {call : Call} {g : Group}
    (h : (Pattern.read .builtin p).segments = [.field call g]) :
    g ∈ Piece.groups (Piece.scan p) ∧ call = Call.ofSource g.source ∧
      Registry.builtin.knows call.name = true := by
  refine (Segment.field_mem_foldr _).1 (?_ : .field call g ∈ (Pattern.read .builtin p).segments)
  rw [h]
  exact List.mem_singleton_self _

/-- The field that a text reads as can only be the call of the text. -/
theorem readsAsField_iff_segments (t : Text) :
    ReadsAsField t ↔
      (Pattern.read .builtin (bracketed t)).segments = [.field (Call.ofSource t) ⟨t, 0⟩] := by
  constructor
  · rintro ⟨call, hsegments⟩
    obtain ⟨-, rfl, -⟩ := field_of_singleton hsegments
    exact hsegments
  · exact fun hsegments => ⟨_, hsegments⟩

instance (t : Text) : Decidable (ReadsAsField t) := decidable_of_iff _ (readsAsField_iff_segments t).symm

/-- A text reads as a field if its name is known and its brackets match. -/
theorem readsAsField_iff (t : Text) :
    ReadsAsField t ↔ Registry.builtin.knows (Call.ofSource t).name = true ∧ Enclosed 0 t := by
  rw [readsAsField_iff_segments]
  constructor
  · intro hsegments
    obtain ⟨hgroup, -, hknown⟩ := field_of_singleton hsegments
    obtain ⟨rest, after, -, -, hend⟩ :=
      Piece.outside_of_mem (bracketed t) 0 (bracketed t) (outside_start _) _ hgroup
    exact ⟨hknown, enclosed_of_groupEnd 0 rest t after hend⟩
  · rintro ⟨hknown, henclosed⟩
    refine (segmentsFrom_bracketed _ 0 (head_of_knows hknown) henclosed).trans ?_
    exact Segment.prependPiece_known (g := ⟨t, 0⟩) hknown []

/-! ### Values of targets -/

theorem Replace.head_of_readRequest {args : List Text} {request : Replace.Request}
    (h : Replace.readRequest args = .ok request) : args.head? = some request.target := by
  unfold Replace.readRequest at h
  split at h
  · split at h
    · cases h
    · split at h
      · cases h
      · cases h
        rfl
  · cases h

/-- A replace field whose target reads as no field never stops a pass. It has a value if the name of the
target is that of a field, though no number, and its brackets do not match: the value of the call that the
target is read as, with the request applied to it. Of the target that call holds all, or what stands before
a comma, and then what follows the comma is ignored. -/
theorem malformed_target_has_value_iff (state : PassState) (item : Item) (name : Text)
    (raw : List Text) (t : Text) (hfirst : (argumentValues raw).head? = some t)
    (hmalformed : ¬ ReadsAsField t) :
    (∃ result, (evaluate .builtin state item (.builtin .replace) name raw).1 = .ok result) ∧
    (∀ value, (evaluate .builtin state item (.builtin .replace) name raw).1 = .ok (.ok value) ↔
      ¬ Enclosed 0 t ∧ Registry.builtin.find? (Call.ofSource t).name ≠ some (.builtin .number) ∧
        ∃ request inner, parseArguments Replace.spec Replace.readRequest raw = .ok request ∧
          ((Call.ofSource t).evaluate .builtin state item).1 = .ok (.ok inner) ∧
          request.apply inner = .ok value) ∧
    (ReadInFull t ∨ ∃ kept dropped, t = kept ++ comma :: dropped ∧ ReadInFull kept ∧
      Call.ofSource t = Call.ofSource kept ∧ splitArguments dropped = []) := by
  have hreplace : .builtin .replace ∈ Registry.builtin.fields := List.mem_map_of_mem (by decide)
  refine ⟨Registry.standard_builtin.unbroken.evaluate .unbounded state item hreplace (by simp) raw, fun value => ?_,
    readInFull_or_dropped t⟩
  have htarget : ∀ request, parseArguments Replace.spec Replace.readRequest raw = .ok request →
      request.targetCall = Call.ofSource t := by
    intro request hparse
    have hhead := Replace.head_of_readRequest (read_of_parseArguments hparse)
    rw [Replace.Request.targetCall, Option.some.inj (hhead.symm.trans hfirst)]
  rw [evaluate_replace_value_iff]
  constructor
  · rintro ⟨request, inner, hparse, hinner, happly⟩
    rw [Replace.Request.evaluateTarget_value_iff Registry.standard_builtin, htarget request hparse] at hinner
    refine ⟨fun henclosed => ?_, hinner.1, request, inner, hparse, hinner.2, happly⟩
    -- the call has a value, so its name is known, and with matching brackets it would be a field
    exact hmalformed ((readsAsField_iff t).2 ⟨Call.knows_of_evaluate hinner.2, henclosed⟩)
  · rintro ⟨-, hnumber, request, inner, hparse, hinner, happly⟩
    refine ⟨request, inner, hparse, ?_, happly⟩
    rw [Replace.Request.evaluateTarget_value_iff Registry.standard_builtin, htarget request hparse]
    exact ⟨hnumber, hinner⟩

/-- The bracket before the x is never closed, so the target is read as if it ended before its comma. -/
theorem unclosed_argument_is_no_part_of_target :
    let t := text "layer name, [x"
    let raw := [text " [layer name, [[x]", text " [a]", text " [b] "]
    let state := PassState.start [] {} none
    let item := Item.within []
    ((argumentValues raw).head? = some t ∧ ¬ ReadsAsField t) ∧
      (evaluate .builtin state item (.builtin .replace) (text "replace") raw).1
        = .ok (.ok (text "lbyer")) ∧
      ¬ Enclosed 0 t ∧
      ∃ kept dropped, t = kept ++ comma :: dropped ∧ Call.ofSource t = Call.ofSource kept ∧
        splitArguments dropped = [] := by
  intro t raw state item
  have hfirst : (argumentValues raw).head? = some t := by decide +kernel
  have hmalformed : ¬ ReadsAsField t := by decide +kernel
  have hcut : ¬ ReadInFull t := by decide +kernel
  have hvalue : (evaluate .builtin state item (.builtin .replace) (text "replace") raw).1
      = .ok (.ok (text "lbyer")) := by
    decide +kernel
  obtain ⟨-, hiff, hkept⟩ :=
    malformed_target_has_value_iff state item (text "replace") raw t hfirst hmalformed
  obtain ⟨henclosed, -⟩ := (hiff (text "lbyer")).1 hvalue
  obtain ⟨kept, dropped, ht, -, hcall, hdropped⟩ := hkept.resolve_left hcut
  exact ⟨⟨hfirst, hmalformed⟩, hvalue, henclosed, kept, dropped, ht, hcall, hdropped⟩

/-- Two targets that are no fields and still have values. Of one a part is ignored; the other makes up a
shorter field with a bracket behind it. -/
theorem targets_that_are_no_fields_have_values :
    let value := fun raw =>
      (evaluate .builtin (.start [] {} none) (.within []) (.builtin .replace) (text "replace") raw).1
    (¬ ReadsAsField (text "layer name, [x") ∧ splitArguments (text " [x") = [] ∧
      let raw := [text " [layer name, [[x]", text " [a]", text " [b] "]
      (argumentValues raw).head? = some (text "layer name, [x") ∧
        value raw = .ok (.ok (text "lbyer"))) ∧
    ¬ ReadsAsField (text "attributes, %w]") ∧
      let raw := [text " [attributes, %w]]]", text " [0]", text " [1] "]
      (argumentValues raw).head? = some (text "attributes, %w]") ∧
        value raw = .ok (.ok (text "1]")) := by
  decide +kernel

end NamePattern
