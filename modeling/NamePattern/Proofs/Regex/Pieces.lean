import NamePattern.Proofs.Regex.Reference

/-!
A replacement template in pieces. It refers to the names in it, and between them every reference is
replaced as ECMAScript has it. So is a name if the match has named groups. Without them a replacement
copies the name, while ECMAScript reads on in it.
-/

namespace NamePattern

/-- The names that a template refers to: what stands between a dollar sign with an opening angle bracket
and the next closing one. -/
def referredNames (t : Text) : List Text :=
  match t with
  | [] | [_] => []
  | u :: c :: rest =>
    if u ≠ unit '$' then referredNames (c :: rest)
    else if c = unit '$' then referredNames rest
    else if c = unit '<' then
      match _h : Text.cutAt (unit '>') rest with
      | (name, some after) => name :: referredNames after
      | (_, none) => referredNames (c :: rest)
    else referredNames (c :: rest)
termination_by t.length
decreasing_by
  all_goals simp only [List.length_cons]
  all_goals try omega
  have shorter := Text.length_after_cut _h
  omega

theorem referredNames_other {u : CodeUnit} (hu : u ≠ unit '$') (t : Text) :
    referredNames (u :: t) = referredNames t := by
  cases t with
  | nil => rw [referredNames, referredNames]
  | cons c rest => rw [referredNames, if_pos hu]

theorem referredNames_dollar (t : Text) :
    referredNames (unit '$' :: unit '$' :: t) = referredNames t := by
  rw [referredNames, if_neg (not_not_intro rfl), if_pos rfl]

theorem referredNames_angle {t name after : Text} (h : t.cutAt (unit '>') = (name, some after)) :
    referredNames (unit '$' :: unit '<' :: t) = name :: referredNames after := by
  rw [referredNames, if_neg (not_not_intro rfl), if_neg (by decide), if_pos rfl]
  split
  · next hcut =>
    rw [h] at hcut
    cases hcut
    rfl
  · next hcut =>
    rw [h] at hcut
    cases hcut

theorem referredNames_unclosed {t name : Text} (h : t.cutAt (unit '>') = (name, none)) :
    referredNames (unit '$' :: unit '<' :: t) = referredNames t := by
  rw [referredNames, if_neg (not_not_intro rfl), if_neg (by decide), if_pos rfl]
  split
  · next hcut =>
    rw [h] at hcut
    cases hcut
  · exact referredNames_other (by decide) t

theorem referredNames_pair {c : CodeUnit} (hdollar : c ≠ unit '$') (hangle : c ≠ unit '<')
    (t : Text) : referredNames (unit '$' :: c :: t) = referredNames t := by
  rw [referredNames, if_neg (not_not_intro rfl), if_neg hdollar, if_neg hangle,
    referredNames_other hdollar]

/-- Only digits are left out when a number is read. -/
theorem referredNames_numbered {m : Match} {c : CodeUnit} {t captured after : Text}
    (h : m.numbered? c t = some (captured, after)) : referredNames after = referredNames t := by
  have hrest : ∀ {read? : Option Text} {rest : Text},
      read?.map (fun found => (found, rest)) = some (captured, after) → after = rest := by
    intro read? rest hmap
    obtain ⟨found, -, hfound⟩ := Option.map_eq_some_iff.1 hmap
    exact (congrArg Prod.snd hfound).symm
  cases t with
  | nil => rw [hrest h]
  | cons d more =>
    rw [Match.numbered?] at h
    split at h
    · next hd =>
      rcases Option.or_eq_some_iff.1 h with h | ⟨-, h⟩
      · rw [hrest h, referredNames_other (Match.digit_ne_dollar hd)]
      · rw [hrest h]
    · rw [hrest h]

/-! ### A template in pieces -/

/-- A text with pieces behind it: each is a name in its brackets, which is read by `read`, and the text
up to the next one. -/
def filledIn (read : Text → Text) (first : Text) : List (Text × Text) → Text
  | [] => first
  | (name, after) :: pieces =>
    first ++ unit '$' :: unit '<' :: (read name ++ unit '>' :: filledIn read after pieces)

theorem filledIn_append (read : Text → Text) (t first : Text) (pieces : List (Text × Text)) :
    filledIn read (t ++ first) pieces = t ++ filledIn read first pieces := by
  cases pieces with
  | nil => rfl
  | cons piece pieces => rw [filledIn, filledIn, List.append_assoc]

/-- What is left of a template but for the names that it refers to, if there are no named groups. With
named groups nothing is left out. -/
structure Match.Pieces (m : Match) (t expansion first : Text) (pieces : List (Text × Text)) :
    Prop where
  names : m.groups = none → pieces.map Prod.fst = referredNames t
  whole : m.groups ≠ none → pieces = []
  expansion_eq : expansion = filledIn id first pieces
  substitution_eq : m.substitution t = filledIn m.substitution first pieces

namespace Match
variable {m : Match}

/-- What is read alike, both as a replacement and in ECMAScript, goes in front of the pieces. -/
theorem Pieces.literal {t rest expansion first : Text} {pieces : List (Text × Text)} (read : Text)
    (h : m.Pieces rest expansion first pieces)
    (hnames : m.groups = none → referredNames t = referredNames rest)
    (hread : m.substitution t = read ++ m.substitution rest) :
    m.Pieces t (read ++ expansion) (read ++ first) pieces where
  names := fun hgroups => by rw [hnames hgroups, h.names hgroups]
  whole := h.whole
  expansion_eq := by rw [h.expansion_eq, filledIn_append]
  substitution_eq := by rw [hread, h.substitution_eq, filledIn_append]

/-- A name is a piece of its own, if there are no named groups. -/
theorem Pieces.name {t name rest expansion first : Text} {pieces : List (Text × Text)}
    (hgroups : m.groups = none) (hcut : t.cutAt (unit '>') = (name, some rest))
    (h : m.Pieces rest expansion first pieces) :
    m.Pieces (unit '$' :: unit '<' :: t) (unit '$' :: unit '<' :: (name ++ [unit '>']) ++ expansion)
      [] ((name, first) :: pieces) where
  names := fun _ => by rw [referredNames_angle hcut, List.map_cons, h.names hgroups]
  whole := fun hsome => absurd hgroups hsome
  expansion_eq := by
    rw [h.expansion_eq, filledIn]
    simp
  substitution_eq := by
    rw [substitution_angle t (Or.inl hgroups), (eq_of_cutAt hcut).1, substitution_append hgroups,
      h.substitution_eq, filledIn, List.nil_append]

theorem exists_pieces (m : Match) (t : Text) :
    ∃ first pieces, m.Pieces t (expandReplacement m t) first pieces := by
  have hread : ∀ {t rest expansion : Text} (read : Text),
      (∃ first pieces, m.Pieces rest expansion first pieces) →
      (m.groups = none → referredNames t = referredNames rest) →
      m.substitution t = read ++ m.substitution rest →
      ∃ first pieces, m.Pieces t (read ++ expansion) first pieces :=
    fun read ⟨first, pieces, h⟩ hnames hread => ⟨read ++ first, pieces, h.literal read hnames hread⟩
  fun_induction expandReplacement m t with
  | case1 =>
    exact ⟨[], [], fun _ => by rw [referredNames]; rfl, fun _ => rfl, rfl, substitution_nil m⟩
  | case2 u =>
    exact ⟨[u], [], fun _ => by rw [referredNames]; rfl, fun _ => rfl, rfl, substitution_single u⟩
  | case3 u c rest hu ih =>
    exact hread [u] ih (fun _ => referredNames_other hu _) (substitution_other _ hu)
  | case4 u rest hu ih =>
    obtain rfl := Decidable.not_not.1 hu
    exact hread [unit '$'] ih (fun _ => referredNames_dollar rest) (substitution_dollar rest)
  | case5 u rest hu _ ih =>
    obtain rfl := Decidable.not_not.1 hu
    exact hread m.content ih (fun _ => referredNames_pair (by decide) (by decide) rest)
      (substitution_content rest)
  | case6 u rest hu _ _ ih =>
    obtain rfl := Decidable.not_not.1 hu
    exact hread (m.input.take m.index) ih
      (fun _ => referredNames_pair (by decide) (by decide) rest) (substitution_before rest)
  | case7 u rest hu _ _ _ ih =>
    obtain rfl := Decidable.not_not.1 hu
    exact hread (m.input.drop m.stop) ih
      (fun _ => referredNames_pair (by decide) (by decide) rest) (substitution_after rest)
  | case8 u rest hu name after hcut _ _ _ _ named ih =>
    obtain rfl := Decidable.not_not.1 hu
    cases hgroups : m.groups with
    | none =>
      have hnamed : named = unit '$' :: unit '<' :: (name ++ [unit '>']) := by
        simp only [named, hgroups]
      obtain ⟨first, pieces, h⟩ := ih
      rw [hnamed]
      exact ⟨[], (name, first) :: pieces, h.name hgroups hcut⟩
    | some groups =>
      have hnamed : named = Match.named groups name := by simp only [named, hgroups]
      rw [hnamed]
      refine hread _ ih (fun hnone => ?_) (substitution_named hgroups hcut)
      rw [hnone] at hgroups
      cases hgroups
  | case9 u rest hu name hcut _ _ _ _ ih =>
    obtain rfl := Decidable.not_not.1 hu
    refine hread [unit '$'] ih (fun _ => ?_) ?_
    · rw [referredNames_unclosed hcut, referredNames_other (by decide)]
    · rw [substitution_angle rest (Or.inr (by rw [hcut])), substitution_other rest (by decide)]
      rfl
  | case10 u c rest hu hdollar hcontent hbefore hafter hangle hdigit captured after hnumber ih =>
    obtain rfl := Decidable.not_not.1 hu
    refine hread captured ih (fun _ => ?_) ?_
    · rw [referredNames_pair hdollar hangle, referredNames_numbered hnumber]
    · rw [substitution_digit hdigit, hnumber, afterNumber]
  | case11 u c rest hu hdollar hcontent hbefore hafter hangle hdigit hnumber ih =>
    obtain rfl := Decidable.not_not.1 hu
    refine hread [unit '$'] ih (fun _ => ?_) ?_
    · rw [referredNames_pair hdollar hangle, referredNames_other hdollar]
    · rw [substitution_digit hdigit, hnumber, afterNumber]
      rfl
  | case12 u c rest hu hdollar hcontent hbefore hafter hangle hdigit ih =>
    obtain rfl := Decidable.not_not.1 hu
    refine hread [unit '$'] ih (fun _ => ?_) ?_
    · rw [referredNames_pair hdollar hangle, referredNames_other hdollar]
    · exact substitution_plain rest hdollar hbefore hcontent hafter (by simpa using hdigit) hangle

end Match

end NamePattern
