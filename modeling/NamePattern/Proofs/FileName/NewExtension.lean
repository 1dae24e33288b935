import NamePattern.Proofs.FileName.Compound

/-!
Names with another extension. A new extension stands behind what is left of a name without its old one. It is
the extension of the new name and can be replaced in turn, unless it makes a compound extension with the end of
what is left, as `gz` does behind `Image.xcf`. Then the two are read as one extension, and replaced as one.
-/

namespace NamePattern

/-- An extension without a period. -/
structure IsPlainExtension (ext : Text) : Prop where
  ne_nil : ext ≠ []
  plain : period ∉ ext

/-- An extension makes a compound one with the end of the text that it is put behind. -/
def CompletesCompound (kept ext : Text) : Prop :=
  ∃ front first, kept = front ++ period :: first ∧ isCompoundExtension (first ++ period :: ext) = true

theorem fileRoot_eq_of_append {name front : Text} (hext : fileExtension name ≠ [])
    (hname : name = front ++ period :: fileExtension name) : fileRoot name = front :=
  List.append_cancel_right ((eq_fileRoot_append hext).symm.trans hname)

theorem replaceExtension_eq_append (name : Text) {ext : Text} (hext : IsPlainExtension ext) :
    replaceExtension name ext = replaceExtension name [] ++ period :: ext := by
  have hdrop : ext.dropWhile (· == period) = ext := by
    obtain ⟨u, rest, rfl⟩ := List.exists_cons_of_ne_nil hext.ne_nil
    have hu : u ≠ period := fun h => hext.plain (h ▸ List.mem_cons_self)
    exact List.dropWhile_cons_of_neg (by simpa using hu)
  simp only [replaceExtension, hdrop, List.isEmpty_iff, hext.ne_nil, if_false]
  rfl

/-- The extension that is read is the one that is replaced. -/
theorem replaceExtension_append {front ext again : Text} (hne : ext ≠ [])
    (hread : fileExtension (front ++ period :: ext) = ext) (hagain : IsPlainExtension again) :
    replaceExtension (front ++ period :: ext) again = front ++ period :: again := by
  have hext : fileExtension (front ++ period :: ext) ≠ [] := by rwa [hread]
  have hroot : fileRoot (front ++ period :: ext) = front := fileRoot_eq_of_append hext (by rw [hread])
  rw [replaceExtension_eq_append _ hagain, replaceExtension_of_ne_nil hext, hroot]

theorem fileExtension_append {kept ext : Text} (hext : IsPlainExtension ext)
    (hcompletes : ¬ CompletesCompound kept ext) : fileExtension (kept ++ period :: ext) = ext := by
  refine fileExtension_eq_iff.2 (.last ?_ rfl hext.plain)
  rintro ⟨front, found, hname, hcompound⟩
  -- a compound extension has a period, so it begins before the new one
  rcases behind_cases hname with ⟨-, rfl⟩ | ⟨middle, -, rfl⟩ | ⟨middle, rfl, rfl⟩
  · rw [not_isCompound_of_notMem hext.plain] at hcompound
    cases hcompound
  · exact hext.plain (by simp)
  · exact hcompletes ⟨front, middle, rfl, hcompound⟩

theorem fileExtension_completed (front : Text) {first ext : Text}
    (hcompound : isCompoundExtension (first ++ period :: ext) = true) :
    fileExtension (front ++ period :: (first ++ period :: ext)) = first ++ period :: ext :=
  fileExtension_eq_iff.2 (.compound rfl hcompound)

theorem ne_append_cons (t front : Text) (u : CodeUnit) : t ≠ front ++ u :: t := by
  intro h
  have hlength := congrArg List.length h
  rw [List.length_append, List.length_cons] at hlength
  omega

/-- A new extension stands behind what removing the old one leaves of a name. It is the extension of the new
name, and replacing it comes to replacing the old one, just if it completes no compound extension. Otherwise the
compound extension is the one of the new name and is replaced whole. -/
theorem new_extension_reads_back_iff (name : Text) {ext again : Text} (hext : IsPlainExtension ext)
    (hagain : IsPlainExtension again) :
    let kept := replaceExtension name []
    let renamed := replaceExtension name ext
    renamed = kept ++ period :: ext ∧
    (fileExtension renamed = ext ↔ ¬ CompletesCompound kept ext) ∧
    (replaceExtension renamed again = replaceExtension name again ↔ ¬ CompletesCompound kept ext) ∧
    ∀ front first, kept = front ++ period :: first →
      isCompoundExtension (first ++ period :: ext) = true →
      fileExtension renamed = first ++ period :: ext ∧
        replaceExtension renamed again = front ++ period :: again := by
  intro kept renamed
  have hrenamed : renamed = kept ++ period :: ext := replaceExtension_eq_append name hext
  have hname : replaceExtension name again = kept ++ period :: again :=
    replaceExtension_eq_append name hagain
  have hcompleted : ∀ front first, kept = front ++ period :: first →
      isCompoundExtension (first ++ period :: ext) = true →
      fileExtension renamed = first ++ period :: ext ∧
        replaceExtension renamed again = front ++ period :: again := by
    intro front first hkept hcompound
    have hread := fileExtension_completed front hcompound
    rw [hrenamed, hkept, List.append_assoc, List.cons_append]
    exact ⟨hread, replaceExtension_append (by simp) hread hagain⟩
  refine ⟨hrenamed, ?_, ?_, hcompleted⟩
  · constructor
    · rintro hread ⟨front, first, hkept, hcompound⟩
      exact ne_append_cons ext first period (hread.symm.trans (hcompleted front first hkept hcompound).1)
    · exact fun hcompletes => hrenamed ▸ fileExtension_append hext hcompletes
  · rw [hname]
    constructor
    · rintro hreplace ⟨front, first, hkept, hcompound⟩
      have hfront := hreplace.symm.trans (hcompleted front first hkept hcompound).2
      rw [hkept, List.append_assoc, List.append_cancel_left_eq, List.cons_append] at hfront
      exact ne_append_cons again first period (List.tail_eq_of_cons_eq hfront).symm
    · intro hcompletes
      rw [hrenamed]
      exact replaceExtension_append hext.ne_nil (fileExtension_append hext hcompletes) hagain

/-- The same name with an extension that makes up no compound one, and with one that does. -/
theorem renamed_archive_reads_back :
    let name := text "Image.XCF.png"
    let kept := text "Image.XCF"
    (IsPlainExtension (text "jpg") ∧ IsPlainExtension (text "gz") ∧
      kept = text "Image" ++ period :: text "XCF" ∧
      isCompoundExtension (text "XCF" ++ period :: text "gz") = true) ∧
    (¬ CompletesCompound kept (text "jpg") ∧
      replaceExtension name (text "jpg") = text "Image.XCF.jpg" ∧
      replaceExtension (replaceExtension name (text "jpg")) (text "gz")
        = replaceExtension name (text "gz")) ∧
    fileExtension (replaceExtension name (text "gz")) = text "XCF.gz" ∧
      replaceExtension (replaceExtension name (text "gz")) (text "jpg") = text "Image.jpg" := by
  intro name kept
  have hjpg : IsPlainExtension (text "jpg") := ⟨by decide, by decide⟩
  have hgz : IsPlainExtension (text "gz") := ⟨by decide, by decide⟩
  have hkept : replaceExtension name [] = kept := by decide +kernel
  have hsplit : kept = text "Image" ++ period :: text "XCF" := by decide
  have hcompound : isCompoundExtension (text "XCF" ++ period :: text "gz") = true := by decide +kernel
  have hread : fileExtension (replaceExtension name (text "jpg")) = text "jpg" := by decide +kernel
  obtain ⟨hrenamed, hreads, hreplaces, -⟩ := new_extension_reads_back_iff name hjpg hgz
  obtain ⟨-, -, -, hcompleted⟩ := new_extension_reads_back_iff name hgz hjpg
  have hnot := hreads.1 hread
  have hwhole := hcompleted _ _ (hkept.trans hsplit) hcompound
  refine ⟨⟨hjpg, hgz, hsplit, hcompound⟩, ⟨hkept ▸ hnot, ?_, hreplaces.2 hnot⟩, hwhole.1, hwhole.2⟩
  rw [hrenamed, hkept]
  decide

/-- An extension that completes a compound one is not read back, and is not replaced alone. -/
theorem completed_extension_is_read_whole :
    let name := text "Image.xcf.png"
    let renamed := replaceExtension name (text "gz")
    IsPlainExtension (text "gz") ∧ IsPlainExtension (text "png") ∧
      renamed = text "Image.xcf.gz" ∧ fileExtension renamed = text "xcf.gz" ∧
      fileExtension renamed ≠ text "gz" ∧
      replaceExtension renamed (text "png") = text "Image.png" ∧
      replaceExtension name (text "png") = text "Image.xcf.png" ∧
      replaceExtension renamed (text "png") ≠ replaceExtension name (text "png") := by
  exact ⟨⟨by decide, by decide⟩, ⟨by decide, by decide⟩, by decide +kernel⟩

end NamePattern
