import Mathlib.Control.Monad.Basic
import NamePattern.Proofs.Rendering.Segments

/-!
Names of flags. Eight names are documented, a long and a short one for each of four flags; the flags that names
set are written as letters, always in one order and each once, whatever the order, the repetition and the case of
the names. An unknown name is refused, and then the replace field stands as it is written. Two names that are not
documented are not refused either, and set no flag.
-/

namespace NamePattern

theorem map_eq_of_mapM {α β : Type} {f : α → Option β} {as : List α} {bs : List β}
    (h : as.mapM f = some bs) : as.map f = bs.map some := by
  induction as generalizing bs with
  | nil =>
    cases h
    rfl
  | cons a rest ih =>
    rw [List.mapM_cons] at h
    obtain ⟨b, hb, h⟩ := Option.bind_eq_some_iff.1 h
    obtain ⟨more, hmore, h⟩ := Option.bind_eq_some_iff.1 h
    cases h
    rw [List.map_cons, List.map_cons, hb, ih hmore]

theorem exists_of_mapM_eq_none {α β : Type} {f : α → Option β} {as : List α} (h : as.mapM f = none) :
    ∃ a ∈ as, f a = none := by
  induction as with
  | nil => cases h
  | cons a rest ih =>
    rw [List.mapM_cons] at h
    cases hfirst : f a with
    | none => exact ⟨a, List.mem_cons_self, hfirst⟩
    | some b =>
      cases hrest : rest.mapM f with
      | none =>
        obtain ⟨found, hfound, hnone⟩ := ih hrest
        exact ⟨found, List.mem_cons_of_mem _ hfound, hnone⟩
      | some more =>
        rw [hfirst, hrest] at h
        cases h

namespace Replace

/-- The documented names, with the letter of the flag of each. -/
def documentedFlags : List (Text × CodeUnit) :=
  [(text "ignorecase", unit 'i'), (text "i", unit 'i'),
    (text "multiline", unit 'm'), (text "m", unit 'm'),
    (text "dotall", unit 's'), (text "s", unit 's'),
    (text "unicode", unit 'u'), (text "u", unit 'u')]

/-- A name, in any case, is documented to set the flag of a letter. -/
def SetsFlag (name : Text) (letter : CodeUnit) : Prop := (name.lower, letter) ∈ documentedFlags

instance (name : Text) (letter : CodeUnit) : Decidable (SetsFlag name letter) :=
  inferInstanceAs (Decidable (_ ∈ _))

/-- A name, in any case, is one of the documented ones. -/
def IsDocumented (name : Text) : Prop := name.lower ∈ documentedFlags.map Prod.fst

instance (name : Text) : Decidable (IsDocumented name) := inferInstanceAs (Decidable (_ ∈ _))

/-- A name, in any case, is one that is found though it names no flag. -/
def IsStray (name : Text) : Prop := name.lower ∈ [text "constructor", text "__proto__"]

instance (name : Text) : Decidable (IsStray name) := inferInstanceAs (Decidable (_ ∈ _))

/-- A name is not found at all. -/
def IsUnknown (name : Text) : Prop := ¬ IsDocumented name ∧ ¬ IsStray name

instance (name : Text) : Decidable (IsUnknown name) := inferInstanceAs (Decidable (_ ∧ _))

/-- What names are documented to come to. -/
def documentedFlags? (names : List Text) : Option Text :=
  if ∀ name ∈ names, IsDocumented name then
    some (unit 'g' :: flagLetters.filter fun letter => ∃ name ∈ names, SetsFlag name letter)
  else none

/-! ### One name -/

theorem flagNames_eq : flagNames = documentedFlags.map (fun flag => (flag.1, some flag.2))
    ++ [(text "constructor", none), (text "__proto__", none)] := by decide

theorem flagOf_eq_some {name : Text} {letter : Option CodeUnit} :
    flagOf? name = some letter ↔ (name.lower, letter) ∈ flagNames := by
  have hunique : ∀ a ∈ flagNames, ∀ b ∈ flagNames, a.1 = b.1 → a = b := by decide
  rw [flagOf?, Option.map_eq_some_iff]
  constructor
  · rintro ⟨flag, hfind, rfl⟩
    have hname : flag.1 = name.lower := by simpa using List.find?_some hfind
    exact hname ▸ List.mem_of_find?_eq_some hfind
  · intro hmem
    cases hfind : flagNames.find? fun flag => flag.1 = name.lower with
    | none =>
      have hnone := List.find?_eq_none.1 hfind _ hmem
      simp at hnone
    | some flag =>
      have hname : flag.1 = name.lower := by simpa using List.find?_some hfind
      exact ⟨flag, rfl, congrArg Prod.snd (hunique _ (List.mem_of_find?_eq_some hfind) _ hmem hname)⟩

theorem flagOf_eq_letter {name : Text} {letter : CodeUnit} :
    flagOf? name = some (some letter) ↔ SetsFlag name letter := by
  rw [flagOf_eq_some, flagNames_eq, SetsFlag]
  simp

theorem flagOf_eq_none {name : Text} : flagOf? name = none ↔ IsUnknown name := by
  have hnames : flagNames.map Prod.fst
      = documentedFlags.map Prod.fst ++ [text "constructor", text "__proto__"] := by decide
  rw [IsUnknown, ← not_or, IsDocumented, IsStray, ← List.mem_append, ← hnames, flagOf?, Option.map_eq_none_iff,
    List.find?_eq_none]
  simp only [List.mem_map, not_exists, not_and, decide_eq_true_eq]

/-! ### Lists of names -/

theorem flagsOfNames_eq (names : List Text) :
    flagsOfNames? names =
      if ∃ name ∈ names, IsUnknown name then none
      else some (unit 'g' :: flagLetters.filter fun letter => ∃ name ∈ names, SetsFlag name letter) := by
  rw [flagsOfNames?]
  cases hfound : names.mapM flagOf? with
  | none =>
    obtain ⟨name, hname, hnone⟩ := exists_of_mapM_eq_none hfound
    rw [if_pos ⟨name, hname, flagOf_eq_none.1 hnone⟩]
    rfl
  | some found =>
    have hmap := map_eq_of_mapM hfound
    rw [if_neg]
    · have hletter : ∀ letter, some letter ∈ found ↔ ∃ name ∈ names, SetsFlag name letter := by
        intro letter
        have hmem : some (some letter) ∈ found.map some ↔ some letter ∈ found := by simp
        rw [← hmem, ← hmap, List.mem_map]
        simp only [flagOf_eq_letter]
      simp [hletter]
    · rintro ⟨name, hname, hnone⟩
      have hmem : none ∈ found.map some := hmap ▸ List.mem_map.2 ⟨name, hname, flagOf_eq_none.2 hnone⟩
      simp at hmem

theorem flagsOfNames_eq_none {names : List Text} :
    flagsOfNames? names = none ↔ ∃ name ∈ names, IsUnknown name := by
  rw [flagsOfNames_eq]
  split
  · next hunknown => exact iff_of_true rfl hunknown
  · next hunknown => exact iff_of_false (by simp) hunknown

/-- Names come to what they are documented to come to where a stray name among them makes no difference. -/
theorem flagsOfNames_eq_documented_iff (names : List Text) :
    flagsOfNames? names = documentedFlags? names ↔
      (∃ name ∈ names, IsUnknown name) ∨ ∀ name ∈ names, ¬ IsStray name := by
  have happart : ∀ t ∈ documentedFlags.map Prod.fst, t ∉ [text "constructor", text "__proto__"] := by decide
  rw [flagsOfNames_eq, documentedFlags?]
  by_cases hunknown : ∃ name ∈ names, IsUnknown name
  · have ⟨name, hname, hnot, _⟩ := hunknown
    rw [if_pos hunknown, if_neg fun hall => hnot (hall name hname)]
    exact iff_of_true rfl (.inl hunknown)
  · have hdocumented : (∀ name ∈ names, IsDocumented name) ↔ ∀ name ∈ names, ¬ IsStray name := by
      refine forall₂_congr fun name hname => ⟨fun h => happart _ h, fun h => ?_⟩
      exact Decidable.byContradiction fun hnot => hunknown ⟨name, hname, hnot, h⟩
    rw [if_neg hunknown, or_iff_right hunknown, ← hdocumented]
    split
    · next hall => exact iff_of_true rfl hall
    · next hall => exact iff_of_false (by simp) hall

/-- Only the lower case of names counts, and neither their order nor how often they are given. -/
theorem flagsOfNames_congr {names others : List Text}
    (h : ∀ t, t ∈ others.map Text.lower ↔ t ∈ names.map Text.lower) :
    flagsOfNames? others = flagsOfNames? names := by
  have hexists : ∀ p : Text → Prop, (∃ name ∈ others, p name.lower) ↔ ∃ name ∈ names, p name.lower := by
    intro p
    have hmap : ∀ list : List Text, (∃ name ∈ list, p name.lower) ↔ ∃ t ∈ list.map Text.lower, p t :=
      fun list => by simp
    rw [hmap, hmap]
    exact exists_congr fun t => and_congr_left fun _ => h t
  have hunknown := hexists fun t => t ∉ documentedFlags.map Prod.fst ∧ t ∉ [text "constructor", text "__proto__"]
  have hsets : ∀ letter, (∃ name ∈ others, SetsFlag name letter) ↔ ∃ name ∈ names, SetsFlag name letter :=
    fun letter => hexists fun t => (t, letter) ∈ documentedFlags
  rw [flagsOfNames_eq, flagsOfNames_eq]
  refine ite_congr (propext hunknown) (fun _ => rfl) fun _ => ?_
  rw [funext fun letter => decide_eq_decide.2 (hsets letter)]

/-! ### The replace field -/

/-- Each letter stands once in the flags, so they can be read. -/
theorem ofText_letters (p : CodeUnit → Bool) :
    ∃ flags, Regex.Flags.ofText? (unit 'g' :: flagLetters.filter p) = some flags := by
  have hletters : flagLetters = [unit 'i', unit 'm', unit 's', unit 'u'] := by decide
  simp only [hletters, List.filter_cons, List.filter_nil]
  cases p (unit 'i') <;> cases p (unit 'm') <;> cases p (unit 's') <;> cases p (unit 'u') <;> exact ⟨_, rfl⟩

theorem readFlags_eq_error {names : List Text} {fault : ArgumentFault} :
    readFlags names = .error fault ↔
      fault = .replacementFlags names ∧ ∃ name ∈ names, IsUnknown name := by
  rw [readFlags, flagsOfNames_eq]
  split
  · next flags hflags =>
    refine iff_of_false (by simp) fun h => ?_
    rw [if_pos h.2] at hflags
    cases hflags
  · next hnone =>
    by_cases hunknown : ∃ name ∈ names, IsUnknown name
    · rw [and_iff_left hunknown, Except.error.injEq, eq_comm]
    · rw [if_neg hunknown] at hnone
      obtain ⟨flags, hflags⟩ := ofText_letters _
      exact absurd (hflags.symm.trans hnone) (by simp)

/-- A replace field reads its count and then its flags. -/
theorem parse_of_values {raw names : List Text} {target search replacement digits : Text}
    (hvalues : argumentValues raw = target :: search :: replacement :: digits :: names) :
    parseArguments spec readRequest raw =
      if digits.isNumeral then
        match readFlags names with
        | .ok flags => .ok ⟨target, search, replacement, digits.toNat, flags⟩
        | .error fault => .error (.arguments spec.name fault)
      else .error (.arguments spec.name (.replacementCount digits)) := by
  have htakes : spec.takes (target :: search :: replacement :: digits :: names).length = true := by
    simp [FieldSpec.takes, spec]
  simp only [parseArguments, hvalues, htakes, if_true, readRequest, readCount, List.tail_cons]
  by_cases hdigits : digits.isNumeral = true
  · rw [if_pos hdigits, if_pos hdigits]
    cases readFlags names <;> rfl
  · rw [if_neg hdigits, if_neg hdigits]

theorem parse_eq_flags_error {raw names : List Text} {target search replacement digits : Text}
    (hvalues : argumentValues raw = target :: search :: replacement :: digits :: names) :
    parseArguments spec readRequest raw = .error (.arguments spec.name (.replacementFlags names)) ↔
      digits.isNumeral = true ∧ ∃ name ∈ names, IsUnknown name := by
  rw [parse_of_values hvalues]
  split
  · next hdigits =>
    rw [and_iff_right hdigits]
    cases hflags : readFlags names with
    | ok flags =>
      refine iff_of_false (by simp) fun hunknown => ?_
      cases hflags.symm.trans (readFlags_eq_error.2 ⟨rfl, hunknown⟩)
    | error fault =>
      obtain ⟨rfl, hunknown⟩ := readFlags_eq_error.1 hflags
      exact iff_of_true rfl hunknown
  · next hdigits => exact iff_of_false (by simp) fun h => hdigits h.1

theorem parse_of_unknown {raw names : List Text} {target search replacement digits : Text}
    (hvalues : argumentValues raw = target :: search :: replacement :: digits :: names)
    (hunknown : ∃ name ∈ names, IsUnknown name) :
    ∃ failure, parseArguments spec readRequest raw = .error failure := by
  by_cases hdigits : digits.isNumeral = true
  · exact ⟨_, (parse_eq_flags_error hvalues).2 ⟨hdigits, hunknown⟩⟩
  · exact ⟨_, (parse_of_values hvalues).trans (if_neg hdigits)⟩

/-- Names of flags are refused if one of them, in lower case, is neither documented nor one of the stray names;
otherwise they come to the letter g and the letters that they set, each once and always in one order. That is
what they are documented to come to unless a stray name is among them and no unknown one. A replace field with an
unknown name fails, and then it shows its own text. -/
theorem names_come_to_documented_flags_iff (names : List Text) :
    (flagsOfNames? names = none ↔ ∃ name ∈ names, IsUnknown name) ∧
    (∀ flags, flagsOfNames? names = some flags →
      flags = unit 'g' :: flagLetters.filter fun letter => ∃ name ∈ names, SetsFlag name letter) ∧
    (flagsOfNames? names = documentedFlags? names ↔
      (∃ name ∈ names, IsUnknown name) ∨ ∀ name ∈ names, ¬ IsStray name) ∧
    (∀ others : List Text, (∀ t, t ∈ others.map Text.lower ↔ t ∈ names.map Text.lower) →
      flagsOfNames? others = flagsOfNames? names) ∧
    ∀ call target search replacement digits,
      argumentValues call.args = target :: search :: replacement :: digits :: names →
      (parseArguments spec readRequest call.args = .error (.arguments spec.name (.replacementFlags names)) ↔
        digits.isNumeral = true ∧ ∃ name ∈ names, IsUnknown name) ∧
      ((∃ name ∈ names, IsUnknown name) →
        ∀ registry state item g, registry.find? call.name = some (.builtin .replace) →
          Segment.render registry item state (.field call g) = (.ok g.written, state)) := by
  refine ⟨flagsOfNames_eq_none, fun flags hflags => ?_, flagsOfNames_eq_documented_iff names,
    fun others => flagsOfNames_congr, fun call target search replacement digits hvalues => ⟨?_, ?_⟩⟩
  · rw [flagsOfNames_eq] at hflags
    exact (Option.some.inj (Option.ite_none_left_eq_some.1 hflags).2).symm
  · exact parse_eq_flags_error hvalues
  · intro hunknown registry state item g hfind
    obtain ⟨failure, hparse⟩ := parse_of_unknown hvalues hunknown
    rw [Segment.render_call, Call.evaluate, hfind]
    dsimp only
    rw [evaluate_replace_of_error _ _ _ _ hparse]

/-- Names in any order and case, some of them twice; and a name that is unknown, behind a stray one. -/
theorem flags_stand_once_in_order :
    let names := [text "U", text "MultiLine", text "m", text "U"]
    let args := [text " [layer name]", text " [a]", text " [b]", text " 1", text " constructor", text " verbose"]
    let call : Call := ⟨text "replace", args⟩
    let unknown := [text "constructor", text "verbose"]
    (flagsOfNames? names = some (text "gmu") ∧ documentedFlags? names = some (text "gmu") ∧
      (∀ t, t ∈ [text "m", text "MULTILINE", text "u"].map Text.lower ↔ t ∈ names.map Text.lower) ∧
      flagsOfNames? [text "m", text "MULTILINE", text "u"] = some (text "gmu")) ∧
    (argumentValues args = text "layer name" :: text "a" :: text "b" :: text "1" :: unknown ∧
      Registry.builtin.find? (text "replace") = some (.builtin .replace)) ∧
    flagsOfNames? unknown = none ∧
    parseArguments spec readRequest args
      = .error (.arguments (text "replace") (.replacementFlags unknown)) ∧
    Segment.render .builtin (.within []) (.start [] {} none) (.field call ⟨text "replace, ...", 0⟩)
      = (.ok (text "[replace, ...]"), .start [] {} none) := by
  intro names args call unknown
  have hflags : flagsOfNames? names = some (text "gmu") := by decide +kernel
  have hvalues : argumentValues args = text "layer name" :: text "a" :: text "b" :: text "1" :: unknown := by
    decide +kernel
  have hunknown : ∃ name ∈ unknown, IsUnknown name := by decide +kernel
  have hmembers : ∀ t, t ∈ [text "m", text "MULTILINE", text "u"].map Text.lower ↔ t ∈ names.map Text.lower := by
    have hto : ∀ t ∈ [text "m", text "MULTILINE", text "u"].map Text.lower, t ∈ names.map Text.lower := by
      decide +kernel
    have hfrom : ∀ t ∈ names.map Text.lower, t ∈ [text "m", text "MULTILINE", text "u"].map Text.lower := by
      decide +kernel
    exact fun t => ⟨hto t, hfrom t⟩
  obtain ⟨-, -, hdocumented, hothers, -⟩ := names_come_to_documented_flags_iff names
  obtain ⟨hnone, -, -, -, hcalls⟩ := names_come_to_documented_flags_iff unknown
  obtain ⟨hparse, hrender⟩ := hcalls call _ _ _ _ hvalues
  refine ⟨⟨hflags, ?_, hmembers, (hothers _ hmembers).trans hflags⟩, ⟨hvalues, rfl⟩, hnone.2 hunknown,
    hparse.2 ⟨by decide, hunknown⟩, hrender hunknown _ _ _ _ rfl⟩
  rw [← hdocumented.2 (.inr (by decide +kernel)), hflags]

/-- A name that is not documented is not refused. -/
theorem stray_name_is_accepted :
    let pattern := text "[replace, [layer name], [a], [b], 1, constructor]"
    ¬ IsDocumented (text "constructor") ∧
      flagsOfNames? [text "constructor"] = some (text "g") ∧ documentedFlags? [text "constructor"] = none ∧
      (Pattern.read .builtin pattern).render .builtin [.within []] {} none = .ok [text "lbyer"] := by
  exact ⟨by decide +kernel, by decide +kernel, by decide +kernel, by decide +kernel⟩

end Replace

end NamePattern
