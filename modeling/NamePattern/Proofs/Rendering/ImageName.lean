import NamePattern.Proofs.FileName.Extension
import NamePattern.Proofs.Rendering.Steady

/-!
The image name without its extension. Without an argument the field shows what removing the extension leaves
of the name. No period stands at its end unless the period before the extension stands behind another one:
with an extension the periods before it are kept.
-/

namespace NamePattern

namespace ImageName

/-- The name of the image of an item. -/
def imageName (options : RenderOptions) (item : Item) : Text :=
  item.image.name.getD options.untitledImageName

theorem evaluate_of_no_values (view : View) {raw : List Text} (h : argumentValues raw = []) :
    evaluate view raw = .ok (replaceExtension (imageName view.options view.item) []) := by
  have hparse : parseArguments spec readKeep raw = .ok false :=
    parseArguments_of_read (by rw [h]; rfl) (by rw [h]; rfl)
  rw [evaluate, evaluateBy, hparse]
  rfl

theorem renderItem_pattern (state : PassState) (item : Item) :
    (Pattern.read .builtin (text "[image name]")).renderItem .builtin state item
      = (.ok (replaceExtension (imageName state.options item) []), state) := by
  have hsegments : (Pattern.read .builtin (text "[image name]")).segments
      = [.field ⟨text "image name", []⟩ ⟨text "image name", 0⟩] := by
    decide +kernel
  have hfind : Registry.builtin.find? (text "image name") = some (.builtin .imageName) := rfl
  have hcall : Call.evaluate .builtin state item ⟨text "image name", []⟩
      = (.ok (.ok (replaceExtension (imageName state.options item) [])), state) := by
    rw [Call.evaluate, hfind]
    dsimp only
    rw [evaluate_plain _ _ _ _ (by decide) (by decide), FieldKind.evaluatePlain,
      evaluate_of_no_values _ rfl]
    rfl
  rw [Segment.renderItem_eq_renderAll, hsegments]
  exact Segment.renderAll_of_value _ _ _ hcall _

theorem render_pattern (items : List Item) (options : RenderOptions) (now : Option Instant) :
    (Pattern.read .builtin (text "[image name]")).render .builtin items options now
      = .ok (items.map fun item => replaceExtension (imageName options item) []) :=
  Pattern.render_of_steady (renderItem_pattern (.start items options now))

end ImageName

/-- Removing the extension of a name leaves a part of it from the front, without the extension and the period
before it, and takes away nothing else but periods. It leaves none at the end just if the period before the
extension does not stand behind another one. The image name without an argument is shown so, and over a whole
run none of its texts ends in a period just if no item has an image of such a name. -/
theorem extension_leaves_no_period_iff (name : Text) (items : List Item) (options : RenderOptions)
    (now : Option Instant) :
    ((fileExtension name = [] → fileRoot name = name) ∧
      (fileExtension name ≠ [] → name = fileRoot name ++ period :: fileExtension name) ∧
      replaceExtension name [] <+: name ∧
      (∃ count, fileRoot name = replaceExtension name [] ++ List.replicate count period) ∧
      ((replaceExtension name []).getLast? = some period ↔ HasDoublePeriod name) ∧
      (Stripped name (replaceExtension name []) ↔ ¬ HasDoublePeriod name)) ∧
    (∀ view raw, argumentValues raw = [] → ImageName.evaluate view raw
      = .ok (replaceExtension (ImageName.imageName view.options view.item) [])) ∧
    ∃ shown, (Pattern.read .builtin (text "[image name]")).render .builtin items options now = .ok shown ∧
      shown = items.map (fun item => replaceExtension (ImageName.imageName options item) []) ∧
      ((∀ t ∈ shown, t.getLast? ≠ some period) ↔
        ∀ item ∈ items, ¬ HasDoublePeriod (ImageName.imageName options item)) := by
  refine ⟨?_, fun view raw h => ImageName.evaluate_of_no_values view h,
    _, ImageName.render_pattern items options now, rfl, ?_⟩
  · exact ⟨fileRoot_of_eq_nil, eq_fileRoot_append, replaceExtension_isPrefix name,
      fileRoot_eq_append name, getLast_replaceExtension name, stripped_replaceExtension name⟩
  · rw [List.forall_mem_map]
    exact forall₂_congr fun item _ => not_congr (getLast_replaceExtension _)

/-- A compound extension behind another period, and a name that has periods at its end in place of an
extension. -/
theorem compound_extension_leaves_no_period :
    let name := text "a.b.XCF.gz"
    let bare := text "Image.."
    let saved : Item := { Item.within [] with image := { name := some name } }
    (fileExtension name ≠ [] ∧ ¬ HasDoublePeriod name ∧
      fileExtension bare = [] ∧ ¬ HasDoublePeriod bare ∧ argumentValues [text " "] = []) ∧
    name = text "a.b" ++ period :: text "XCF.gz" ∧ Stripped name (text "a.b") ∧
      fileRoot bare = bare ∧ Stripped bare (text "Image") ∧
      ImageName.evaluate ((PassState.start [] {} none).view saved) [text " "] = .ok (text "a.b") := by
  intro name bare saved
  have hname : fileExtension name = text "XCF.gz" ∧ fileRoot name = text "a.b" ∧
      replaceExtension name [] = text "a.b" ∧ ¬ HasDoublePeriod name := by
    decide +kernel
  have hbare : fileExtension bare = [] ∧ replaceExtension bare [] = text "Image" ∧
      ¬ HasDoublePeriod bare := by
    decide +kernel
  have hraw : argumentValues [text " "] = [] := by decide +kernel
  have hne : fileExtension name ≠ [] := by
    rw [hname.1]
    decide
  obtain ⟨⟨-, hjoined, -, -, -, hstripped⟩, hevaluate, -⟩ :=
    extension_leaves_no_period_iff name [saved] {} none
  obtain ⟨⟨hroot, -, -, -, -, hbareStripped⟩, -⟩ := extension_leaves_no_period_iff bare [] {} none
  have htexts := hjoined hne
  rw [hname.1, hname.2.1] at htexts
  have hkept := hstripped.2 hname.2.2.2
  rw [hname.2.2.1] at hkept
  have hbareKept := hbareStripped.2 hbare.2.2
  rw [hbare.2.1] at hbareKept
  refine ⟨⟨hne, hname.2.2.2, hbare.1, hbare.2.2, hraw⟩, htexts, hkept, hroot hbare.1, hbareKept, ?_⟩
  exact (hevaluate _ _ hraw).trans (congrArg Except.ok hname.2.2.1)

/-- The first of two periods before an extension is left at the end. -/
theorem second_period_is_left :
    let name := text "a..png"
    let saved : Item := { Item.within [] with image := { name := some name } }
    replaceExtension name [] = text "a." ∧ (text "a.").getLast? = some period ∧
      Stripped name (text "a") ∧
      (Pattern.read .builtin (text "[image name]")).render .builtin [saved] {} none
        = .ok [text "a."] := by
  intro name saved
  have hroot : fileRoot name = text "a" ++ List.replicate 1 period := by decide +kernel
  exact ⟨by decide +kernel, by decide, ⟨⟨1, hroot⟩, by decide⟩, by decide +kernel⟩

end NamePattern
