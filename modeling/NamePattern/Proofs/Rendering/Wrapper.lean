import NamePattern.Proofs.Rendering.LayerPath
import NamePattern.Proofs.Text.Token

/-!
Names within wrappers. The layer path and the tags find out by the text of a placeholder, a percent sign and
a mark, whether an argument is a wrapper, and expand the wrapper as a template. The two do not read it
alike. A mark behind an escaped percent sign is found and is no token, and one in braces is a token and is
not found. A wrapper that is found but has no token shows none of the names; in all other cases each of
them is shown, in order.
-/

namespace NamePattern

/-- Texts that stand in a text one behind the other. -/
def InOrder : List Text → Text → Prop
  | [], _ => True
  | part :: rest, t => ∃ before after, t = before ++ part ++ after ∧ InOrder rest after

theorem InOrder.behind {parts : List Text} {t : Text} (h : InOrder parts t) (front : Text) :
    InOrder parts (front ++ t) := by
  cases parts with
  | nil => trivial
  | cons part rest =>
    obtain ⟨before, after, rfl, hrest⟩ := h
    exact ⟨front ++ before, after, by simp, hrest⟩

theorem inOrder_joined {f : Text → Text} (separator : Text) {parts : List Text}
    (h : ∀ part ∈ parts, part <:+: f part) : InOrder parts (Text.joined separator (parts.map f)) := by
  induction parts with
  | nil => trivial
  | cons part rest ih =>
    obtain ⟨⟨before, after, hpart⟩, hrest⟩ := List.forall_mem_cons.1 h
    have hjoined := ih hrest
    rw [List.map_cons]
    cases rest with
    | nil => exact ⟨before, after, by rw [List.map_nil, joined_singleton, hpart], trivial⟩
    | cons next more =>
      refine ⟨before, after ++ separator ++ Text.joined separator ((next :: more).map f), ?_,
        hjoined.behind _⟩
      rw [joined_cons (by simp), ← hpart]
      simp

/-- What comes of names with a separator between them, each within a wrapper. -/
structure ShownIn (mark : CodeUnit) (separator wrapper : Text) (names : List Text) (value : Text) :
    Prop where
  eq : value = Text.joined separator (names.map fun name => expandTemplate [([mark], name)] wrapper)
  inOrder : HasToken mark wrapper → InOrder names value
  alike : ¬ HasToken mark wrapper →
    value = Text.joined separator (List.replicate names.length (Text.undouble percent wrapper))
  plain : wrapper = [percent, mark] → InOrder names value ∧ value = Text.joined separator names

section
variable {mark : CodeUnit}

/-- Where finding the placeholder comes to reading a token. -/
theorem placeholder_occurs_iff_hasToken (wrapper : Text) :
    ([percent, mark] <:+: wrapper ↔ HasToken mark wrapper) ↔
      Unescaped [mark] wrapper ∨
        ([percent, mark] <:+: wrapper ↔ Unescaped (inBraces mark) wrapper) := by
  have hfound : Unescaped [mark] wrapper → [percent, mark] <:+: wrapper := Unescaped.occurs
  rw [HasToken]
  tauto

variable (hpercent : mark ≠ percent) (hbrace : mark ≠ openBrace) (hclose : mark ≠ closeBrace)
include hpercent hbrace

theorem expandTemplate_mark (name : Text) :
    expandTemplate [([mark], name)] [percent, mark] = name := by
  have hread := parseTemplate_name [[mark]] (t := [mark]) (by simpa using hpercent)
    (by simpa using hbrace) (longestName_singleton [mark] [])
  rw [expandTemplate, List.map_cons, List.map_nil, hread, List.length_singleton, List.drop_one,
    List.tail_cons, parseTemplate_nil, List.flatMap_singleton, fill_token]

include hclose

theorem shownIn_joined (separator wrapper : Text) (names : List Text) :
    ShownIn mark separator wrapper names
      (Text.joined separator (names.map fun name => expandTemplate [([mark], name)] wrapper)) := by
  have hinOrder : HasToken mark wrapper → InOrder names
      (Text.joined separator (names.map fun name => expandTemplate [([mark], name)] wrapper)) :=
    fun htoken => inOrder_joined separator fun name _ =>
      value_occurs name ((token_mem_parseTemplate hpercent hclose).2 htoken)
  refine ⟨rfl, hinOrder, fun hnone => ?_, ?_⟩
  · have hnot : .token [mark] ∉ parseTemplate [[mark]] wrapper :=
      fun h => hnone ((token_mem_parseTemplate hpercent hclose).1 h)
    simp only [expandTemplate_of_not_mem _ hnot, List.map_const']
  · rintro rfl
    refine ⟨hinOrder (hasToken_placeholder hpercent), ?_⟩
    simp only [expandTemplate_mark hpercent hbrace, List.map_id']

end

/-! ### The two fields with wrappers -/

/-- The extension mode that stands in the place of a wrapper has no placeholder. -/
theorem LayerPath.wrapper_of_readLayout {args : List Text} {layout : Layout}
    (h : readLayout args = .ok layout) : layout.wrapper = wrapperOf args[1]? := by
  rcases args with _ | ⟨separator, _ | ⟨arg, _ | ⟨third, rest⟩⟩⟩
  · cases h
    rfl
  · cases h
    rfl
  · simp only [readLayout, List.tail_cons] at h
    split at h
    · next mode hmode =>
      cases h
      have hnone : ¬ Text.includes placeholder arg = true := fun hincludes => by
        cases hmode.symm.trans (ofText_wrapper hincludes)
      exact (if_neg hnone).symm
    · cases h
      rfl
  · simp only [readLayout, List.tail_cons] at h
    cases hmode : readMode (third :: rest) with
    | error fault =>
      rw [hmode] at h
      cases h
    | ok mode =>
      rw [hmode] at h
      cases h
      rfl

theorem LayerPath.wrapperOf_eq_given (given : Text) :
    wrapperOf (some given) = given ↔ placeholder <:+: given := by
  rw [← includes_iff, wrapperOf]
  constructor
  · intro h
    by_contra hnone
    rw [if_neg hnone] at h
    exact hnone (includes_iff.2 (h ▸ List.infix_rfl))
  · exact fun h => if_pos h

theorem LayerPath.wrapperOf_of_not_occurs {given : Text} (h : ¬ placeholder <:+: given) :
    wrapperOf (some given) = placeholder :=
  if_neg fun hincludes => h (includes_iff.1 hincludes)

theorem LayerPath.evaluate_of_parse (view : View) {raw : List Text} {layout : Layout}
    (h : parseArguments spec readLayout raw = .ok layout) :
    ∃ value, evaluate view raw = .ok value ∧
      ShownIn (unit 'c') layout.separator layout.wrapper
        (names view.options layout.mode view.item) value := by
  refine ⟨_, ?_, shownIn_joined (by decide) (by decide) (by decide) _ _ _⟩
  rw [evaluate, evaluateBy, h]
  rfl

/-- Tags can be read from any arguments. -/
theorem Tags.exists_parse (raw : List Text) :
    ∃ layout, readLayout (argumentValues raw) = .ok layout ∧
      parseArguments spec readLayout raw = .ok layout :=
  ⟨_, rfl, parseArguments_of_read (by simp [FieldSpec.takes, spec]) rfl⟩

theorem Tags.evaluate_of_parse (view : View) {raw : List Text} {layout : Layout}
    (h : parseArguments spec readLayout raw = .ok layout) :
    ∃ value, evaluate view raw = .ok value ∧
      ShownIn (unit 't') layout.separator layout.wrapper
        (select view.item.tags layout.requested) value := by
  refine ⟨_, ?_, shownIn_joined (by decide) (by decide) (by decide) _ _ _⟩
  rw [evaluate, evaluateBy, h]
  rfl

theorem Tags.readLayout_given {separator given : Text} {rest : List Text} {layout : Layout}
    (h : readLayout (separator :: given :: rest) = .ok layout) :
    (placeholder <:+: given → layout = ⟨separator, given, rest⟩) ∧
      (¬ placeholder <:+: given →
        layout = ⟨text "-", placeholder, separator :: given :: rest⟩) := by
  rw [← includes_iff]
  simp only [readLayout, splitWrapping] at h
  constructor
  · intro hincludes
    rw [if_pos hincludes] at h
    exact (Except.ok.inj h).symm
  · intro hnone
    rw [if_neg hnone] at h
    exact (Except.ok.inj h).symm

/-- The layer path and the tags take an argument for a wrapper if it contains the placeholder, escaped or
not, and read it as a template with a token that may stand in braces. What the wrapper is found by and what
it is read as are the same just if the mark stands unescaped in it, or the placeholder occurs just if the
mark in braces stands unescaped. With a token all names are shown in order, without one the wrapper stands
as often as there are names, and without a wrapper the names stand as they are. -/
theorem wrapper_is_found_by_placeholder (view : View) (raw : List Text) :
    (∀ mark ∈ [unit 'c', unit 't'], ∀ wrapper : Text,
      (.token [mark] ∈ parseTemplate [[mark]] wrapper ↔ HasToken mark wrapper) ∧
      (([percent, mark] <:+: wrapper ↔ HasToken mark wrapper) ↔
        Unescaped [mark] wrapper ∨
          ([percent, mark] <:+: wrapper ↔ Unescaped (inBraces mark) wrapper))) ∧
    (∀ layout, parseArguments LayerPath.spec LayerPath.readLayout raw = .ok layout →
      (∃ value, LayerPath.evaluate view raw = .ok value ∧
        ShownIn (unit 'c') layout.separator layout.wrapper
          (LayerPath.names view.options layout.mode view.item) value) ∧
      ((argumentValues raw)[1]? = none → layout.wrapper = [percent, unit 'c']) ∧
      ∀ given, (argumentValues raw)[1]? = some given →
        (layout.wrapper = given ↔ [percent, unit 'c'] <:+: given) ∧
        (¬ [percent, unit 'c'] <:+: given → layout.wrapper = [percent, unit 'c'])) ∧
    ∀ separator given rest, argumentValues raw = separator :: given :: rest →
      ∃ layout, parseArguments Tags.spec Tags.readLayout raw = .ok layout ∧
        (∃ value, Tags.evaluate view raw = .ok value ∧
          ShownIn (unit 't') layout.separator layout.wrapper
            (Tags.select view.item.tags layout.requested) value) ∧
        ([percent, unit 't'] <:+: given → layout = ⟨separator, given, rest⟩) ∧
        (¬ [percent, unit 't'] <:+: given →
          layout = ⟨text "-", [percent, unit 't'], separator :: given :: rest⟩) := by
  have hpath : LayerPath.placeholder = [percent, unit 'c'] := by decide
  have htags : Tags.placeholder = [percent, unit 't'] := by decide
  refine ⟨fun mark hmark wrapper => ?_, fun layout hparse => ?_, fun separator given rest hvalues => ?_⟩
  · have hmarks : mark ≠ percent ∧ mark ≠ closeBrace := by
      rcases List.mem_pair.1 hmark with rfl | rfl <;> decide
    exact ⟨token_mem_parseTemplate hmarks.1 hmarks.2, placeholder_occurs_iff_hasToken wrapper⟩
  · have hwrapper := LayerPath.wrapper_of_readLayout (read_of_parseArguments hparse)
    refine ⟨LayerPath.evaluate_of_parse view hparse, fun hnone => ?_, fun given hgiven => ?_⟩
    · rw [hwrapper, hnone, ← hpath]
      rfl
    · rw [hwrapper, hgiven, ← hpath]
      exact ⟨LayerPath.wrapperOf_eq_given given, LayerPath.wrapperOf_of_not_occurs⟩
  · obtain ⟨layout, hread, hparse⟩ := Tags.exists_parse raw
    rw [hvalues] at hread
    refine ⟨layout, hparse, Tags.evaluate_of_parse view hparse, ?_⟩
    rw [← htags]
    exact Tags.readLayout_given hread

/-- Three percent signs in front of the mark, the last of which begins the token, and the mark in braces
behind an escaped one that is no token. -/
theorem names_stand_behind_third_percent :
    let view := (PassState.start [] {} none).view (.within [text "Body"])
    let wrapper := text "<%%%c%%\x7bc\x7d>"
    let raw := [text " _", text " " ++ wrapper, text " %e"]
    let layout : LayerPath.Layout := ⟨text "_", wrapper, some .always⟩
    (parseArguments LayerPath.spec LayerPath.readLayout raw = .ok layout ∧
      (argumentValues raw)[1]? = some wrapper) ∧
    LayerPath.evaluate view raw = .ok (text "<%Body%\x7bc\x7d>_<%layer%\x7bc\x7d>") ∧
      [percent, unit 'c'] <:+: wrapper ∧
      InOrder [text "Body", text "layer"] (text "<%Body%\x7bc\x7d>_<%layer%\x7bc\x7d>") ∧
    let tags := [text "+", text "%t", text "Background"]
    argumentValues tags = tags ∧
      parseArguments Tags.spec Tags.readLayout tags
        = .ok ⟨text "+", text "%t", [text "Background"]⟩ := by
  intro view wrapper raw layout
  have hparse : parseArguments LayerPath.spec LayerPath.readLayout raw = .ok layout := by
    decide +kernel
  have hgiven : (argumentValues raw)[1]? = some wrapper := by decide +kernel
  obtain ⟨htokens, hpath, -⟩ := wrapper_is_found_by_placeholder view raw
  obtain ⟨⟨value, hvalue, hshown⟩, -, happlied⟩ := hpath layout hparse
  have hevaluate : LayerPath.evaluate view raw
      = .ok (text "<%Body%\x7bc\x7d>_<%layer%\x7bc\x7d>") := by
    decide +kernel
  obtain rfl := Except.ok.inj (hevaluate.symm.trans hvalue)
  have htoken : HasToken (unit 'c') wrapper :=
    (htokens _ List.mem_cons_self wrapper).1.1 (by decide +kernel)
  refine ⟨⟨hparse, hgiven⟩, hevaluate, (happlied wrapper hgiven).1.1 rfl, hshown.inOrder htoken, ?_⟩
  intro tags
  have htags : argumentValues tags = tags := by decide +kernel
  obtain ⟨-, -, hlayout⟩ := wrapper_is_found_by_placeholder view tags
  obtain ⟨layout, hread, -, hwrapped, -⟩ := hlayout _ _ _ htags
  rw [hwrapped (includes_iff.1 (by decide +kernel))] at hread
  exact ⟨htags, hread⟩

/-- An escaped placeholder makes a wrapper in which no name is shown. A token in braces makes none, so that
the names of a path stand without it and it is taken for the name of a tag. -/
theorem placeholder_and_token_disagree :
    let item := { Item.within [text "Body"] with tags := .ofList [text "left"] }
    let view := (PassState.start [] {} none).view item
    let path := fun wrapper => LayerPath.evaluate view [text "-", wrapper]
    let tags := fun wrapper => Tags.evaluate view [text "-", wrapper]
    let reads := fun mark wrapper => .token [mark] ∈ parseTemplate [[mark]] wrapper
    (¬ reads (unit 'c') (text "%%c") ∧ path (text "%%c") = .ok (text "%c-%c")) ∧
    (reads (unit 'c') (text "<%\x7bc\x7d>") ∧
      path (text "<%\x7bc\x7d>") = .ok (text "Body-layer")) ∧
    (¬ reads (unit 't') (text "%%t") ∧ tags (text "%%t") = .ok (text "%t")) ∧
    reads (unit 't') (text "<%\x7bt\x7d>") ∧ tags (text "<%\x7bt\x7d>") = .ok [] := by
  decide +kernel

end NamePattern
