import NamePattern.Proofs.Regex.Pieces
import NamePattern.Proofs.Regex.Progress

/-!
Replacements and ECMAScript. A replacement expands its template for one match as ECMAScript substitutes it,
but for one thing: if the match has no named groups, then what stands in angle brackets behind a dollar
sign is copied as it is, while in ECMAScript the references in it are replaced. A blank match, whose groups
are all there and all empty, tells the two apart on every template with such a reference.
-/

namespace NamePattern

/-! ### Names that hold references -/

/-- Whether a digit and what follows it can be the number of a group. None has the number zero. -/
def numbersGroup (c : CodeUnit) (rest : Text) : Bool :=
  digitValue c != 0 || rest.head?.any fun d => isDigit d && digitValue d != 0

/-- Whether a text begins with a reference to a part of the match or to a dollar sign. -/
def beginsReference : Text → Bool
  | u :: c :: rest =>
    u = unit '$' && (c = unit '$' || c = unit '&' || c = 0x60 || c = unit '\''
      || isDigit c && numbersGroup c rest)
  | _ => false

/-- Whether such a reference begins anywhere in a text. -/
def holdsReference : Text → Bool
  | [] => false
  | u :: rest => beginsReference (u :: rest) || holdsReference rest

namespace Match
variable {m : Match}

theorem numbered_eq_none {c : CodeUnit} {rest : Text} (h : numbersGroup c rest = false) :
    m.numbered? c rest = none := by
  simp only [numbersGroup, Bool.or_eq_false_iff, bne_eq_false_iff_eq] at h
  obtain ⟨hc, hrest⟩ := h
  have hzero : m.captured? 0 = none := rfl
  cases rest with
  | nil => rw [numbered?, hc, hzero]; rfl
  | cons d more =>
    rw [numbered?, hc, hzero]
    simp only [List.head?_cons, Option.any_some, Bool.and_eq_false_iff, bne_eq_false_iff_eq] at hrest
    rcases hrest with hd | hd
    · rw [hd]; rfl
    · rw [hd, hzero]
      split <;> rfl

/-- What begins no reference is copied, if there are no named groups. -/
theorem substitution_cons (h : m.groups = none) {u : CodeUnit} {t : Text}
    (hbegins : beginsReference (u :: t) = false) :
    m.substitution (u :: t) = u :: m.substitution t := by
  by_cases hu : u = unit '$'
  · subst hu
    cases t with
    | nil => rw [substitution_single, substitution_nil]
    | cons c rest =>
      simp only [beginsReference, decide_true, Bool.true_and, Bool.or_eq_false_iff,
        decide_eq_false_iff_not, Bool.and_eq_false_iff] at hbegins
      obtain ⟨⟨⟨⟨hdollar, hcontent⟩, hbefore⟩, hafter⟩, hnumber⟩ := hbegins
      by_cases hangle : c = unit '<'
      · subst hangle
        rw [substitution_angle rest (Or.inl h), substitution_other rest (by decide)]
      rcases hnumber with hdigit | hnumber
      · exact substitution_plain rest hdollar hbefore hcontent hafter hdigit hangle
      by_cases hdigit : isDigit c = true
      · rw [substitution_digit hdigit, numbered_eq_none hnumber, afterNumber]
      · exact substitution_plain rest hdollar hbefore hcontent hafter (by simpa using hdigit) hangle
  · exact substitution_other t hu

theorem substitution_eq_self (h : m.groups = none) {t : Text} (hholds : holdsReference t = false) :
    m.substitution t = t := by
  induction t with
  | nil => exact substitution_nil m
  | cons u rest ih =>
    rw [holdsReference, Bool.or_eq_false_iff] at hholds
    rw [substitution_cons h hholds.1, ih hholds.2]

/-- A match without any text, but with as many groups as two digits can number. -/
def blank : Match where
  content := []
  index := 0
  input := []
  captures := List.replicate 99 (some [])
  groups := none

theorem blank_captured {n : Nat} (hpos : n ≠ 0) (hle : n ≤ 99) : blank.captured? n = some [] := by
  rw [captured?, if_neg hpos, blank, List.getElem?_replicate, if_pos (by omega)]
  rfl

theorem digitValue_le {c : CodeUnit} (h : isDigit c = true) : digitValue c ≤ 9 := by
  simp only [isDigit, Bool.and_eq_true, decide_eq_true_eq, UInt16.le_iff_toNat_le] at h
  have hle : c.toNat ≤ 0x39 := h.2
  rw [digitValue]
  omega

/-- Every number of a group is that of an empty one. -/
theorem blank_numbered {c : CodeUnit} (hc : isDigit c = true) {rest : Text}
    (h : numbersGroup c rest = true) :
    ∃ after, blank.numbered? c rest = some ([], after) ∧ after.length ≤ rest.length := by
  have hone : digitValue c ≠ 0 → blank.captured? (digitValue c) = some [] := fun hpos =>
    blank_captured hpos (Nat.le_trans (digitValue_le hc) (by decide))
  simp only [numbersGroup, Bool.or_eq_true, bne_iff_ne] at h
  cases rest with
  | nil =>
    rcases h with hpos | hnone
    · exact ⟨[], by rw [numbered?, hone hpos]; rfl, Nat.le_refl _⟩
    · cases hnone
  | cons d more =>
    simp only [List.head?_cons, Option.any_some, Bool.and_eq_true, bne_iff_ne] at h
    by_cases hd : isDigit d = true
    · have hpair : blank.captured? (10 * digitValue c + digitValue d) = some [] := by
        have := digitValue_le hc
        have := digitValue_le hd
        exact blank_captured (by omega) (by omega)
      exact ⟨more, by rw [numbered?, if_pos hd, hpair]; rfl, Nat.le_succ _⟩
    · have hpos : digitValue c ≠ 0 := h.resolve_right fun hdigit => hd hdigit.1
      exact ⟨d :: more, by rw [numbered?, if_neg hd, hone hpos]; rfl, Nat.le_refl _⟩

/-- A reference to the blank match leaves one unit at most, and is written with two at least. -/
theorem length_blank_reference {t : Text} (h : beginsReference t = true) : ∃ rest,
    rest.length + 2 ≤ t.length ∧
      (blank.substitution t).length ≤ (blank.substitution rest).length + 1 := by
  rcases t with _ | ⟨u, _ | ⟨c, rest⟩⟩
  · cases h
  · cases h
  simp only [beginsReference, Bool.and_eq_true, Bool.or_eq_true, decide_eq_true_eq] at h
  obtain ⟨rfl, (((rfl | rfl) | rfl) | rfl) | ⟨hdigit, hnumber⟩⟩ := h
  · exact ⟨rest, Nat.le_refl _, by rw [substitution_dollar]; exact Nat.le_refl _⟩
  · exact ⟨rest, Nat.le_refl _, by rw [substitution_content]; exact Nat.le_succ _⟩
  · exact ⟨rest, Nat.le_refl _, by rw [substitution_before]; exact Nat.le_succ _⟩
  · exact ⟨rest, Nat.le_refl _, by rw [substitution_after]; exact Nat.le_succ _⟩
  · obtain ⟨after, hafter, hlen⟩ := blank_numbered hdigit hnumber
    refine ⟨after, Nat.add_le_add_right hlen 2, ?_⟩
    rw [substitution_digit hdigit, hafter]
    exact Nat.le_succ _

/-- Reading a template for the blank match makes it no longer, and shorter if it holds a reference. -/
theorem length_blank_substitution (t : Text) :
    (blank.substitution t).length + (if holdsReference t then 1 else 0) ≤ t.length := by
  induction hn : t.length using Nat.strongRecOn generalizing t with
  | _ n ih =>
    subst hn
    cases t with
    | nil => rw [substitution_nil]; exact Nat.le_refl _
    | cons u rest =>
      by_cases hbegins : beginsReference (u :: rest) = true
      · obtain ⟨after, hafter, hlen⟩ := length_blank_reference hbegins
        have hshort := ih after.length (by omega) after rfl
        rw [holdsReference, hbegins, Bool.true_or, if_pos rfl]
        omega
      · rw [Bool.not_eq_true] at hbegins
        have hshort := ih rest.length (Nat.lt_succ_self _) rest rfl
        rw [substitution_cons rfl hbegins, holdsReference, hbegins, Bool.false_or,
          List.length_cons, List.length_cons]
        omega

end Match

/-! ### Where the two agree -/

section
variable {read read' : Text → Text} {pieces : List (Text × Text)}

theorem filledIn_congr (h : ∀ name ∈ pieces.map Prod.fst, read name = read' name) (first : Text) :
    filledIn read first pieces = filledIn read' first pieces := by
  induction pieces generalizing first with
  | nil => rfl
  | cons piece pieces ih =>
    rw [List.map_cons, List.forall_mem_cons] at h
    rw [filledIn, filledIn, h.1, ih h.2]

/-- If no name is read as a longer one, then filling in gives no longer text, and a shorter one if a name
is read as a shorter one. -/
theorem length_filledIn_le (h : ∀ name, (read name).length ≤ (read' name).length) (first : Text) :
    (filledIn read first pieces).length ≤ (filledIn read' first pieces).length := by
  induction pieces generalizing first with
  | nil => exact Nat.le_refl _
  | cons piece pieces ih =>
    have hname := h piece.1
    have hrest := ih piece.2
    simp only [filledIn, List.length_append, List.length_cons]
    omega

theorem length_filledIn_lt (h : ∀ name, (read name).length ≤ (read' name).length) {name : Text}
    (hmem : name ∈ pieces.map Prod.fst) (hname : (read name).length < (read' name).length)
    (first : Text) :
    (filledIn read first pieces).length < (filledIn read' first pieces).length := by
  induction pieces generalizing first with
  | nil => cases hmem
  | cons piece pieces ih =>
    simp only [filledIn, List.length_append, List.length_cons]
    rw [List.map_cons, List.mem_cons] at hmem
    rcases hmem with rfl | hmem
    · have hrest : (filledIn read piece.2 pieces).length ≤ (filledIn read' piece.2 pieces).length :=
        length_filledIn_le h piece.2
      omega
    · have hhead := h piece.1
      have hrest := ih hmem piece.2
      omega

end

namespace Match
variable {m : Match} {t : Text}

theorem expandReplacement_of_groups (h : m.groups ≠ none) :
    expandReplacement m t = m.substitution t := by
  obtain ⟨first, pieces, hpieces⟩ := m.exists_pieces t
  rw [hpieces.expansion_eq, hpieces.substitution_eq, hpieces.whole h]
  rfl

theorem expandReplacement_of_names (h : ∀ name ∈ referredNames t, holdsReference name = false)
    (m : Match) : expandReplacement m t = m.substitution t := by
  by_cases hgroups : m.groups = none
  · obtain ⟨first, pieces, hpieces⟩ := m.exists_pieces t
    rw [hpieces.expansion_eq, hpieces.substitution_eq]
    refine filledIn_congr (fun name hname => ?_) first
    rw [hpieces.names hgroups] at hname
    exact (substitution_eq_self hgroups (h name hname)).symm
  · exact expandReplacement_of_groups hgroups

/-- A name that holds a reference is copied, although ECMAScript replaces it. -/
theorem expandReplacement_blank_ne {name : Text} (hname : name ∈ referredNames t)
    (hholds : holdsReference name = true) : expandReplacement blank t ≠ blank.substitution t := by
  obtain ⟨first, pieces, hpieces⟩ := blank.exists_pieces t
  have hle : ∀ name, (blank.substitution name).length ≤ (id name : Text).length := fun name =>
    Nat.le_trans (Nat.le_add_right _ _) (length_blank_substitution name)
  have hlt : (blank.substitution name).length < (id name : Text).length := by
    have hread := length_blank_substitution name
    rw [if_pos hholds] at hread
    exact hread
  rw [← hpieces.names rfl] at hname
  rw [hpieces.expansion_eq, hpieces.substitution_eq]
  intro heq
  exact absurd (congrArg List.length heq).symm (Nat.ne_of_lt (length_filledIn_lt hle hname hlt first))

end Match

/-! ### Replacing all matches -/

/-- What ECMAScript makes of the matches of a global expression: `done` is what the matches before have
given, and `last` the index up to which the input is done. A match that begins before it is skipped. -/
def accumulated (input t : Text) (done : Text) (last : Nat) : List Match → Text
  | [] => if input.length ≤ last then done else done ++ input.drop last
  | m :: rest =>
    let position := min m.index input.length
    if last ≤ position then
      accumulated input t
        (done ++ input.extract last position ++ Match.substitution { m with index := position } t)
        (position + m.content.length) rest
    else accumulated input t done last rest

/-- An input with all matches of a global expression replaced, as ECMAScript has it. -/
def Regex.replaceAll (regex : Regex) (input t : Text) : Text :=
  accumulated input t [] 0 (regex.matches input)

/-- Matches that come one after the other are all replaced. -/
theorem accumulated_eq_replaceFrom {input t : Text} {last : Nat} {found : List Match}
    (h : Regex.Successive input last found)
    (hagree : ∀ m ∈ found, expandReplacement m t = m.substitution t) (done : Text) :
    accumulated input t done last found
      = done ++ replaceFrom input last (fun m => expandReplacement m t) found := by
  induction h generalizing done with
  | @done last =>
    rw [accumulated, replaceFrom]
    split
    · next hlast => rw [List.drop_of_length_le hlast, List.append_nil]
    · rfl
  | @next last m rest hstart hstop hinput hcontent hrest ih =>
    rw [List.forall_mem_cons] at hagree
    have hposition : min m.index input.length = m.index := by
      rw [Match.stop] at hstop
      omega
    rw [accumulated, hposition, if_pos hstart, replaceFrom, hagree.1, ← Match.stop, ih hagree.2,
      List.extract_eq_take_drop, List.drop_take]
    simp only [List.append_assoc]

theorem Regex.groups_of_mem_matchesFrom {regex : Regex} (h : regex.names ≠ []) {s : Subject}
    {input : Text} {m : Match} {bound position : Nat}
    (hm : m ∈ regex.matchesFrom s input bound position) : m.groups ≠ none := by
  induction bound generalizing position with
  | zero => cases hm
  | succ bound ih =>
    rw [matchesFrom] at hm
    split at hm
    · cases hm
    · next start after _ =>
      rcases List.mem_cons.1 hm with rfl | hm
      · rw [foundMatch, if_neg (by simpa using h)]
        exact Option.some_ne_none _
      · exact ih hm

/-- A replacement is what ECMAScript substitutes for its template. If the match has no named groups, that
is so for every match just if no name in angle brackets holds a reference. So all matches are replaced as
ECMAScript does it if the expression has named groups or no such name holds a reference. -/
theorem expansion_is_substitution_iff (t : Text) :
    (∀ m : Match, m.groups ≠ none → expandReplacement m t = m.substitution t) ∧
    ((∀ m : Match, m.groups = none → m.stop ≤ m.input.length →
        expandReplacement m t = m.substitution t)
      ↔ ∀ name ∈ referredNames t, holdsReference name = false) ∧
    ∀ (regex : Regex) (input : Text), regex.flags.global = true →
      (regex.names ≠ [] ∨ ∀ name ∈ referredNames t, holdsReference name = false) →
      replaceMatches? input regex t 0 = .ok (regex.replaceAll input t) := by
  refine ⟨fun m => Match.expandReplacement_of_groups, ⟨fun hall name hname => ?_, fun h m _ _ =>
    Match.expandReplacement_of_names h m⟩, fun regex input hglobal h => ?_⟩
  · rw [← Bool.not_eq_true]
    intro hholds
    exact Match.expandReplacement_blank_ne hname hholds (hall Match.blank rfl (Nat.le_refl 0))
  · have hagree : ∀ m ∈ regex.matches input, expandReplacement m t = m.substitution t := by
      intro m hm
      rcases h with hnames | hinert
      · exact Match.expandReplacement_of_groups (Regex.groups_of_mem_matchesFrom hnames hm)
      · exact Match.expandReplacement_of_names hinert m
    rw [replaceMatches?, if_pos hglobal, Regex.replaceAll,
      accumulated_eq_replaceFrom (Regex.successive_matches regex input) hagree, replaceMatches]
    rfl

/-- A name without a dollar sign in it is read alike with groups and without, also when all matches are
replaced. -/
theorem plain_name_reads_alike :
    let t := text "$1$<x>"
    let found : Match := ⟨text "bc", 1, text "abcd", [some (text "c")], none⟩
    let regex : Regex := ⟨.cat (.char 98) (.group 1 (.char 99)), { global := true }, 1, []⟩
    expandReplacement { found with groups := some [(text "x", none)] } t = text "c" ∧
    expandReplacement found t = text "c$<x>" ∧
    replaceMatches? (text "abcd") regex t 0 = .ok (text "ac$<x>d") := by
  obtain ⟨hnamed, hplain, hall⟩ := expansion_is_substitution_iff (text "$1$<x>")
  have hnames : ∀ name ∈ referredNames (text "$1$<x>"), holdsReference name = false := by
    decide +kernel
  refine ⟨(hnamed _ (by decide)).trans (by decide +kernel),
    (hplain.2 hnames _ rfl (by decide)).trans (by decide +kernel),
    (hall _ (text "abcd") rfl (Or.inr hnames)).trans (congrArg Except.ok ?_)⟩
  decide +kernel

/-- In angle brackets a reference to the match is copied, also when all matches are replaced. -/
theorem reference_in_angle_brackets_is_copied :
    let t := text "$<$&>"
    let found : Match := ⟨text "bc", 1, text "abcd", [], none⟩
    let regex : Regex := ⟨.cat (.char 98) (.char 99), { global := true }, 0, []⟩
    found.stop ≤ found.input.length ∧ regex.matches (text "abcd") = [found] ∧
    expandReplacement found t = text "$<$&>" ∧ found.substitution t = text "$<bc>" ∧
    replaceMatches (text "abcd") regex t 0 = text "a$<$&>d" ∧
    regex.replaceAll (text "abcd") t = text "a$<bc>d" := by
  decide +kernel

end NamePattern
