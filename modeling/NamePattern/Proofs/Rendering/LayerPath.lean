import NamePattern.Proofs.Pattern.Account
import NamePattern.Proofs.Pattern.Written
import NamePattern.Proofs.Rendering.Steady
import NamePattern.Proofs.Text.Template

/-!
The layer path is taken literally. Its separator and what stands around the place of a name in its wrapper
are written with their brackets doubled, in the wrapper with their percent signs doubled first. Neither
the scan, nor the splitting, nor the reading of the arguments, nor the expansion of the wrapper then takes
any of it, or of the names, for anything else.
-/

namespace NamePattern.LayerPath

/-- The wrapper that puts one text before a name and another one behind it. -/
def wrapping (before after : Text) : Text :=
  Text.double percent before ++ placeholder ++ Text.double percent after

/-- The arguments of a written layer path. -/
def arguments (layout : Layout) : List WrittenArgument :=
  [.wrapped layout.separator, .wrapped layout.wrapper]
    ++ layout.mode.toList.map fun mode => .bare mode.toText

/-- The pattern of a layer path. -/
def pattern (separator before after : Text) (mode : Option ExtensionMode) : Text :=
  text "[layer path, [" ++ doubleBrackets separator ++ text "], ["
    ++ doubleBrackets (wrapping before after) ++ text "]"
    ++ (mode.elim [] fun mode => text ", " ++ mode.toText) ++ text " ]"

/-- The separator and the wrapper are wrapped arguments, and the mode is one that needs no wrapping. -/
theorem pattern_eq (separator before after : Text) (mode : Option ExtensionMode) :
    pattern separator before after mode
      = bracketed (writtenSource (text "layer path")
          (arguments ⟨separator, wrapping before after, mode⟩)) := by
  have hopen : text "[layer path, ["
      = openBracket :: text "layer path" ++ comma :: unit ' ' :: [openBracket] := by decide
  have hnext : text "], [" = closeBracket :: comma :: unit ' ' :: [openBracket] := by decide
  have hlast : text "]" = [closeBracket] := by decide
  have hend : text " ]" = unit ' ' :: [closeBracket] := by decide
  rw [pattern, hopen, hnext, hlast, hend]
  cases mode with
  | none =>
    simp [arguments, writtenSource, writtenArguments_cons, writtenArguments_nil,
      WrittenArgument.written, bracketed]
  | some mode =>
    simp [arguments, writtenSource, writtenArguments_cons, writtenArguments_nil,
      WrittenArgument.written, bracketed, text_comma_blank]

/-! ### The arguments are read as written -/

theorem isBare_toText (mode : ExtensionMode) : IsBare mode.toText := by
  cases mode with
  | always => exact .of_all (by decide) (by decide)
  | ifTarget => exact .of_all (by decide) (by decide)

theorem arguments_sound (layout : Layout) : ∀ arg ∈ arguments layout, arg.Sound := by
  intro arg harg
  simp only [arguments, List.mem_append, List.mem_cons, List.not_mem_nil, or_false,
    List.mem_map] at harg
  obtain (rfl | rfl) | ⟨mode, -, rfl⟩ := harg
  · exact .wrapped layout.separator
  · exact .wrapped layout.wrapper
  · exact .bare (isBare_toText mode)

theorem includes_wrapping (before after : Text) :
    Text.includes placeholder (wrapping before after) = true :=
  includes_iff.2 ⟨Text.double percent before, Text.double percent after, rfl⟩

theorem ofText_toText (mode : ExtensionMode) : ExtensionMode.ofText? mode.toText = some mode := by
  cases mode <;> decide

/-- A wrapper with a place for a name is not taken for an extension mode. -/
theorem ofText_wrapper {wrapper : Text} (h : Text.includes placeholder wrapper = true) :
    ExtensionMode.ofText? wrapper = none := by
  have hne : ∀ mode : ExtensionMode, wrapper ≠ mode.toText := by
    rintro mode rfl
    cases mode with
    | always => exact absurd h (by decide)
    | ifTarget => exact absurd h (by decide)
  rw [ExtensionMode.ofText?, if_neg (hne .always), if_neg (hne .ifTarget)]

theorem readLayout_arguments {layout : Layout}
    (h : Text.includes placeholder layout.wrapper = true) :
    readLayout ((arguments layout).map WrittenArgument.value) = .ok layout := by
  obtain ⟨separator, wrapper, mode⟩ := layout
  have hwrapper : wrapperOf (some wrapper) = wrapper := if_pos h
  cases mode with
  | none =>
    have hvalues : (arguments ⟨separator, wrapper, none⟩).map WrittenArgument.value
        = [separator, wrapper] := rfl
    rw [hvalues, readLayout]
    simp only [List.tail_cons, ofText_wrapper h, hwrapper]
    rfl
  | some mode =>
    have hvalues : (arguments ⟨separator, wrapper, some mode⟩).map WrittenArgument.value
        = [separator, wrapper, mode.toText] := rfl
    rw [hvalues, readLayout]
    simp only [List.tail_cons, readMode, ofText_toText, hwrapper]
    rfl

theorem parse_arguments {layout : Layout}
    (h : Text.includes placeholder layout.wrapper = true) :
    parseArguments spec readLayout (rawArguments (arguments layout)) = .ok layout := by
  have hvalues := argumentValues_rawArguments (arguments_sound layout)
  refine parseArguments_of_read ?_ ?_
  · rw [hvalues, List.length_map, arguments]
    cases layout.mode <;> rfl
  · rw [hvalues]
    exact readLayout_arguments h

/-! ### The wrapper is expanded as written -/

theorem expandTemplate_placeholder (name t : Text) :
    expandTemplate [(tokenName, name)] (placeholder ++ t)
      = name ++ expandTemplate [(tokenName, name)] t := by
  have hplaceholder : placeholder = percent :: tokenName := by decide
  have hhead : ∀ {u : CodeUnit}, u ≠ unit 'c' → (tokenName ++ t).head? ≠ some u :=
    fun hu h => hu (Option.some.inj h).symm
  rw [expandTemplate, hplaceholder, List.cons_append, List.map_cons, List.map_nil,
    parseTemplate_name _ (hhead (by decide)) (hhead (by decide)) (longestName_singleton tokenName t),
    List.drop_left, List.flatMap_cons]
  rfl

theorem expandTemplate_wrapping (before after name : Text) :
    expandTemplate [(tokenName, name)] (wrapping before after) = before ++ name ++ after := by
  rw [wrapping, List.append_assoc, expandTemplate_double_append, expandTemplate_placeholder,
    expandTemplate_double, List.append_assoc]

/-! ### The pattern is the path -/

/-- The names of the groups around an item and its own. -/
def names (options : RenderOptions) (mode : Option ExtensionMode) (item : Item) : List Text :=
  item.path ++ [ExtensionMode.apply mode item.name options.fileExtension]

section
variable (separator before after : Text) (mode : Option ExtensionMode)

theorem evaluate_arguments (view : View) :
    evaluate view (rawArguments (arguments ⟨separator, wrapping before after, mode⟩))
      = .ok (Text.joined separator
          ((names view.options mode view.item).map fun name => before ++ name ++ after)) := by
  have hparse : parseArguments spec readLayout
      (rawArguments (arguments ⟨separator, wrapping before after, mode⟩)) = .ok _ :=
    parse_arguments (includes_wrapping before after)
  rw [evaluate, evaluateBy, hparse]
  simp only [value, expandTemplate_wrapping]
  rfl

theorem isFieldName : IsFieldName Registry.builtin.knows (text "layer path") :=
  ⟨by decide, by decide, by decide, not_bracket_of_all (by decide)⟩

theorem renderItem_pattern (state : PassState) (item : Item) :
    (Pattern.read .builtin (pattern separator before after mode)).renderItem .builtin state item
      = (.ok (Text.joined separator
          ((names state.options mode item).map fun name => before ++ name ++ after)), state) := by
  have hfind : Registry.builtin.find? (text "layer path") = some (.builtin .layerPath) := rfl
  have hcall : Call.evaluate .builtin state item
      ⟨text "layer path", rawArguments (arguments ⟨separator, wrapping before after, mode⟩)⟩
        = (.ok (.ok (Text.joined separator
          ((names state.options mode item).map fun name => before ++ name ++ after))), state) := by
    rw [Call.evaluate, hfind]
    dsimp only
    rw [evaluate_plain _ _ _ _ (by decide) (by decide), FieldKind.evaluatePlain, evaluate_arguments]
    rfl
  rw [Segment.renderItem_eq_renderAll, Pattern.read, pattern_eq,
    segments_writtenSource isFieldName (arguments_sound _)]
  exact Segment.renderAll_of_value _ _ _ hcall _

/-- A layer path consists of the names of an item, with the separator between them and the same text
before and after each. No mark that these texts have has a meaning. -/
theorem layer_path_is_literal (items : List Item) (options : RenderOptions) (now : Option Instant) :
    (Pattern.read .builtin (pattern separator before after mode)).render .builtin items options now
      = .ok (items.map fun item => Text.joined separator
          ((names options mode item).map fun name => before ++ name ++ after)) :=
  Pattern.render_of_steady (renderItem_pattern separator before after mode (.start items options now))

end

end NamePattern.LayerPath
