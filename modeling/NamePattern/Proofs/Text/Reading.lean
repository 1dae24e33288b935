import Mathlib.Data.List.Nodup
import NamePattern.Proofs.Text.Cut
import NamePattern.Proofs.Text.Template

/-!
How a template is read. A reading is told by a grammar that knows of the tokens only which names they
have: neither their values nor an order among the names has a place in it. Each template has exactly one
reading, and expanding the template fills it in. What decides at a percent sign is which of the names that
follow is the longest, and two names of one length that follow at the same place are the same.
-/

namespace NamePattern

/-- A text begins with a known name between braces. The name ends at the first closing brace. -/
structure InBraces (known : Text → Prop) (t name after : Text) : Prop where
  eq : t = openBrace :: (name ++ closeBrace :: after)
  first : closeBrace ∉ name
  mem : known name

/-- A text begins with a known name, and with none that is longer. -/
structure IsLongest (known : Text → Prop) (t name after : Text) : Prop where
  eq : t = name ++ after
  mem : known name
  longest : ∀ other, known other → other <+: t → other.length ≤ name.length

/-- How a template is read, where `known` tells the names of tokens. -/
inductive Reading (known : Text → Prop) : Text → List TemplatePart → Prop
  | nil : Reading known [] []
  | other {u t parts} (hu : u ≠ percent) (ht : Reading known t parts) :
      Reading known (u :: t) (.literal u :: parts)
  | pair {t parts} (ht : Reading known t parts) :
      Reading known (percent :: percent :: t) (.literal percent :: parts)
  | braced {t name after parts} (h : InBraces known t name after)
      (hafter : Reading known after parts) : Reading known (percent :: t) (.token name :: parts)
  | bare {t name after parts} (hpair : t.head? ≠ some percent)
      (hbrace : ∀ inner rest, ¬ InBraces known t inner rest) (h : IsLongest known t name after)
      (hafter : Reading known after parts) : Reading known (percent :: t) (.token name :: parts)
  | lone {t parts} (hpair : t.head? ≠ some percent)
      (hbrace : ∀ inner rest, ¬ InBraces known t inner rest)
      (hnone : ∀ name, known name → ¬ name <+: t) (ht : Reading known t parts) :
      Reading known (percent :: t) (.literal percent :: parts)

/-! ### A template has one reading at most -/

section
variable {known : Text → Prop} {t : Text}

theorem InBraces.head_eq {name after : Text} (h : InBraces known t name after) :
    t.head? ≠ some percent := by
  rw [h.eq]
  exact head_cons_ne (by decide) _

theorem InBraces.unique {name after name' after' : Text} (h : InBraces known t name after)
    (h' : InBraces known t name' after') : name = name' ∧ after = after' := by
  have htexts := (List.cons.inj (h.eq.symm.trans h'.eq)).2
  have hcut := cutAt_append h.first after
  rw [htexts, cutAt_append h'.first] at hcut
  cases hcut
  exact ⟨rfl, rfl⟩

/-- Of two names that follow at the same place one begins the other. -/
theorem IsLongest.unique {name after name' after' : Text} (h : IsLongest known t name after)
    (h' : IsLongest known t name' after') : name = name' ∧ after = after' := by
  have hprefix : name <+: t := ⟨after, h.eq.symm⟩
  have hprefix' : name' <+: t := ⟨after', h'.eq.symm⟩
  have hle := h'.longest name h.mem hprefix
  have hge := h.longest name' h'.mem hprefix'
  obtain rfl := (List.prefix_of_prefix_length_le hprefix hprefix' hle).eq_of_length_le hge
  exact ⟨rfl, List.append_cancel_left (h.eq.symm.trans h'.eq)⟩

theorem Reading.unique {parts other : List TemplatePart} (h : Reading known t parts)
    (hother : Reading known t other) : parts = other := by
  induction h generalizing other with
  | nil => cases hother; rfl
  | other hu _ ih =>
    cases hother with
    | other _ ht => rw [ih ht]
    | pair | braced | bare | lone => exact absurd rfl hu
  | pair _ ih =>
    cases hother with
    | other hu _ => exact absurd rfl hu
    | pair ht => rw [ih ht]
    | braced h' _ => exact absurd rfl h'.head_eq
    | bare hpair | lone hpair => exact absurd rfl hpair
  | braced h _ ih =>
    cases hother with
    | other hu _ => exact absurd rfl hu
    | pair _ => exact absurd rfl h.head_eq
    | braced h' hafter =>
      obtain ⟨rfl, rfl⟩ := h.unique h'
      rw [ih hafter]
    | bare _ hbrace | lone _ hbrace => exact absurd h (hbrace _ _)
  | bare hpair hbrace h _ ih =>
    cases hother with
    | other hu _ => exact absurd rfl hu
    | pair _ => exact absurd rfl hpair
    | braced h' _ => exact absurd h' (hbrace _ _)
    | bare _ _ h' hafter =>
      obtain ⟨rfl, rfl⟩ := h.unique h'
      rw [ih hafter]
    | lone _ _ hnone _ => exact absurd ⟨_, h.eq.symm⟩ (hnone _ h.mem)
  | lone hpair hbrace hnone _ ih =>
    cases hother with
    | other hu _ => exact absurd rfl hu
    | pair _ => exact absurd rfl hpair
    | braced h' _ => exact absurd h' (hbrace _ _)
    | bare _ _ h' _ => exact absurd ⟨_, h'.eq.symm⟩ (hnone _ h'.mem)
    | lone _ _ _ ht => rw [ih ht]

end

/-! ### The parts of a template are its reading -/

section
variable {names : List Text} {t : Text}

theorem bracedName_eq_some {name after : Text} :
    bracedName? names t = some (name, after) ↔ InBraces (· ∈ names) t name after := by
  constructor
  · intro h
    rcases t with _ | ⟨u, rest⟩
    · cases h
    · rw [bracedName?] at h
      split at h
      · next hu =>
        split at h
        · next hcut =>
          obtain ⟨hrest, hfirst⟩ := eq_of_cutAt hcut
          split at h
          · next hknown =>
            cases h
            exact ⟨by rw [hu, hrest], hfirst, by simpa using hknown⟩
          · cases h
        · cases h
      · cases h
  · rintro ⟨rfl, hfirst, hknown⟩
    rw [bracedName?, if_pos rfl, cutAt_append hfirst]
    exact if_pos (by simpa using hknown)

/-- Without a name in braces none can be read. -/
theorem bracedName_eq_none :
    bracedName? names t = none ↔ ∀ inner rest, ¬ InBraces (· ∈ names) t inner rest := by
  simp [Option.eq_none_iff_forall_ne_some, bracedName_eq_some]

/-- Going through some names leaves the longest one. -/
theorem exists_foldl_longerName (names : List Text) (first : Text) :
    ∃ longest, names.foldl longerName (some first) = some longest ∧ longest ∈ first :: names ∧
      ∀ other ∈ first :: names, other.length ≤ longest.length := by
  induction names generalizing first with
  | nil => exact ⟨first, rfl, List.mem_cons_self, by simp⟩
  | cons next rest ih =>
    rw [List.foldl_cons, longerName]
    split
    · next hlt =>
      obtain ⟨longest, hfold, hmem, hle⟩ := ih next
      refine ⟨longest, hfold, List.mem_cons_of_mem _ hmem, List.forall_mem_cons.2 ⟨?_, hle⟩⟩
      have := hle next List.mem_cons_self
      omega
    · next hnot =>
      obtain ⟨longest, hfold, hmem, hle⟩ := ih first
      obtain ⟨hfirst, hrest⟩ := List.forall_mem_cons.1 hle
      refine ⟨longest, hfold, ?_, List.forall_mem_cons.2 ⟨hfirst, List.forall_mem_cons.2 ⟨?_, hrest⟩⟩⟩
      · rcases List.mem_cons.1 hmem with rfl | hmem
        · exact List.mem_cons_self
        · exact List.mem_cons_of_mem _ (List.mem_cons_of_mem _ hmem)
      · omega

/-- The longest of the names that a text begins with is found, if there is any. -/
theorem longestName_cases (names : List Text) (t : Text) :
    (longestName? names t = none ∧ ∀ name ∈ names, ¬ name <+: t) ∨
    ∃ name, longestName? names t = some name ∧
      IsLongest (· ∈ names) t name (t.drop name.length) := by
  have hfilter : ∀ name, name ∈ names.filter (·.isPrefixOf t) ↔ name ∈ names ∧ name <+: t := by
    intro name
    rw [List.mem_filter, List.isPrefixOf_iff_prefix]
  rw [longestName?]
  cases hnames : names.filter (·.isPrefixOf t) with
  | nil =>
    refine .inl ⟨rfl, fun name hname hstarts => ?_⟩
    have hmem := (hfilter name).2 ⟨hname, hstarts⟩
    rw [hnames] at hmem
    cases hmem
  | cons first rest =>
    obtain ⟨longest, hfold, hmem, hle⟩ := exists_foldl_longerName rest first
    rw [← hnames] at hmem hle
    obtain ⟨hlongest, hstarts⟩ := (hfilter longest).1 hmem
    refine .inr ⟨longest, hfold, List.prefix_iff_eq_append.1 hstarts |>.symm, hlongest, ?_⟩
    intro other hother hprefix
    exact hle other ((hfilter other).2 ⟨hother, hprefix⟩)

/-- The parts of a template are read from it. -/
theorem reading_parseTemplate (names : List Text) (t : Text) :
    Reading (· ∈ names) t (parseTemplate names t) := by
  fun_induction parseTemplate names t with
  | case1 => exact .nil
  | case2 u rest hu ih => exact .other hu ih
  | case3 u rest hu hpair ih =>
    obtain rfl := not_not.1 hu
    obtain ⟨more, rfl⟩ := List.head?_eq_some_iff.1 hpair
    exact .pair ih
  | case4 u rest hu hpair name after hbraced ih =>
    obtain rfl := not_not.1 hu
    exact .braced (bracedName_eq_some.1 hbraced) ih
  | case5 u rest hu hpair hbraced name hlongest ih =>
    obtain rfl := not_not.1 hu
    obtain ⟨hnone, -⟩ | ⟨found, hfound, hname⟩ := longestName_cases names rest
    · cases hnone.symm.trans hlongest
    · obtain rfl := Option.some.inj (hfound.symm.trans hlongest)
      exact .bare hpair (bracedName_eq_none.1 hbraced) hname ih
  | case6 u rest hu hpair hbraced hnone ih =>
    obtain rfl := not_not.1 hu
    obtain ⟨-, hno⟩ | ⟨found, hfound, -⟩ := longestName_cases names rest
    · exact .lone hpair (bracedName_eq_none.1 hbraced) hno ih
    · cases hnone.symm.trans hfound

theorem reading_iff {parts : List TemplatePart} :
    Reading (· ∈ names) t parts ↔ parts = parseTemplate names t := by
  constructor
  · exact fun h => h.unique (reading_parseTemplate names t)
  · rintro rfl
    exact reading_parseTemplate names t

/-- Only which names there are has a part in how a template is read. -/
theorem parseTemplate_congr {other : List Text} (h : ∀ name, name ∈ other ↔ name ∈ names)
    (t : Text) : parseTemplate other t = parseTemplate names t := by
  have hknown : (· ∈ other) = (· ∈ names) := funext fun name => propext (h name)
  refine reading_iff.1 ?_
  rw [← hknown]
  exact reading_parseTemplate other t

end

/-! ### Values -/

theorem Reading.known_of_mem {known : Text → Prop} {t : Text} {parts : List TemplatePart}
    (h : Reading known t parts) {name : Text} (hname : .token name ∈ parts) : known name := by
  induction h with
  | nil => cases hname
  | other _ _ ih | pair _ ih | lone _ _ _ _ ih =>
    rcases List.mem_cons.1 hname with hfirst | hrest
    · cases hfirst
    · exact ih hrest
  | braced h _ ih =>
    rcases List.mem_cons.1 hname with hfirst | hrest
    · cases hfirst
      exact h.mem
    · exact ih hrest
  | bare _ _ h _ ih =>
    rcases List.mem_cons.1 hname with hfirst | hrest
    · cases hfirst
      exact h.mem
    · exact ih hrest

section
variable {values : List (Text × Text)} (distinct : (values.map Prod.fst).Nodup)
include distinct

/-- A token is filled in with its value. -/
theorem fill_of_mem {name value : Text} (h : (name, value) ∈ values) :
    TemplatePart.fill values (.token name) = value := by
  rw [TemplatePart.fill]
  cases hfind : values.find? fun v => v.1 = name with
  | none => exact absurd (decide_eq_true rfl) (List.find?_eq_none.1 hfind _ h)
  | some found =>
    have hname : found.1 = name := by simpa using List.find?_some hfind
    have hsame := List.inj_on_of_nodup_map distinct (List.mem_of_find?_eq_some hfind) h hname
    rw [hsame]
    rfl

/-- The order of the tokens has no part in the expansion. -/
theorem expandTemplate_perm {other : List (Text × Text)} (h : other.Perm values) (t : Text) :
    expandTemplate other t = expandTemplate values t := by
  have hdistinct : (other.map Prod.fst).Nodup := (h.map Prod.fst).nodup_iff.2 distinct
  rw [expandTemplate, expandTemplate, parseTemplate_congr fun _ => (h.map Prod.fst).mem_iff]
  refine List.flatMap_congr fun part hpart => ?_
  cases part with
  | literal u => rfl
  | token name =>
    have hname := (reading_parseTemplate (values.map Prod.fst) t).known_of_mem hpart
    obtain ⟨⟨_, value⟩, hvalue, rfl⟩ := List.mem_map.1 hname
    rw [fill_of_mem distinct hvalue, fill_of_mem hdistinct (h.mem_iff.2 hvalue)]

/-- A template has one reading, which the names of the tokens decide, and its expansion is that reading with
every token replaced by its value. Any other tokens with these names fill in the same reading, and the
order of the tokens changes nothing. A text with its percent signs doubled in front of the template stands
for itself. -/
theorem template_is_read_then_filled (t : Text) :
    ∃ parts, (∀ other, Reading (· ∈ values.map Prod.fst) t other ↔ other = parts) ∧
      expandTemplate values t = parts.flatMap (TemplatePart.fill values) ∧
      (∀ name, .token name ∈ parts → ∃ value, (name, value) ∈ values) ∧
      (∀ name value, (name, value) ∈ values → TemplatePart.fill values (.token name) = value) ∧
      (∀ other : List (Text × Text), (∀ name, name ∈ other.map Prod.fst ↔ name ∈ values.map Prod.fst) →
        expandTemplate other t = parts.flatMap (TemplatePart.fill other)) ∧
      (∀ other : List (Text × Text), other.Perm values →
        expandTemplate other t = expandTemplate values t) ∧
      ∀ s, expandTemplate values (Text.double percent s ++ t) = s ++ expandTemplate values t := by
  refine ⟨parseTemplate (values.map Prod.fst) t, fun other => reading_iff, rfl, ?_,
    fun name value => fill_of_mem distinct, ?_, fun other h => expandTemplate_perm distinct h t,
    fun s => expandTemplate_double_append values s t⟩
  · intro name hname
    obtain ⟨⟨_, value⟩, hvalue, rfl⟩ :=
      List.mem_map.1 ((reading_parseTemplate _ t).known_of_mem hname)
    exact ⟨value, hvalue⟩
  · intro other hnames
    rw [expandTemplate, parseTemplate_congr hnames]

end

/-- The longer of two names is taken, a value that looks like a token is not read again, and a name that
begins with a brace is taken only where no name in braces is. -/
theorem values_are_not_read_again :
    let values := [(text "w", text "%\x7biw\x7d"), (text "iw", text "%%"), (text "\x7bi", text "?")]
    let t := text "%iw/%w/%\x7biw\x7d%\x7biw%%x%q"
    (values.map Prod.fst).Nodup ∧ expandTemplate values t = text "%%/%\x7biw\x7d/%%?w%x%q" ∧
      expandTemplate values.reverse t = text "%%/%\x7biw\x7d/%%?w%x%q" ∧
      expandTemplate values (text "%%w" ++ t) = text "%w" ++ text "%%/%\x7biw\x7d/%%?w%x%q" := by
  intro values t
  have distinct : (values.map Prod.fst).Nodup := by decide
  have hexpand : expandTemplate values t = text "%%/%\x7biw\x7d/%%?w%x%q" := by decide +kernel
  obtain ⟨_, -, -, -, -, -, horder, hdouble⟩ := template_is_read_then_filled distinct t
  refine ⟨distinct, hexpand, ?_, ?_⟩
  · rw [horder _ (List.reverse_perm values), hexpand]
  · have hescaped : Text.double percent (text "%w") = text "%%w" := by decide +kernel
    rw [← hescaped, hdouble, hexpand]

end NamePattern
