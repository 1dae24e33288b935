import NamePattern.Template
import NamePattern.Proofs.Pattern.Doubling

/-!
Templates that say what they mean. A text with its percent signs doubled stands for itself in front of any
template, since its signs are read in pairs and what follows begins with none of them.
-/

namespace NamePattern

section
variable (names : List Text)

theorem parseTemplate_nil : parseTemplate names [] = [] := by rw [parseTemplate]

theorem parseTemplate_other {u : CodeUnit} (hu : u ≠ percent) (t : Text) :
    parseTemplate names (u :: t) = .literal u :: parseTemplate names t := by
  rw [parseTemplate, if_pos hu]

theorem parseTemplate_pair (t : Text) :
    parseTemplate names (percent :: percent :: t) = .literal percent :: parseTemplate names t := by
  rw [parseTemplate, if_neg (not_not_intro rfl), List.head?_cons, if_pos rfl, List.tail_cons]

theorem longestName_singleton (name t : Text) : longestName? [name] (name ++ t) = some name := by
  have hfilter : [name].filter (fun other => other.isPrefixOf (name ++ t)) = [name] :=
    List.filter_cons_of_pos (List.isPrefixOf_iff_prefix.2 (List.prefix_append name t))
  rw [longestName?, hfilter]
  rfl

/-- A name without braces, where no name in braces can be read. -/
theorem parseTemplate_name {t name : Text} (hpair : t.head? ≠ some percent)
    (hbrace : t.head? ≠ some openBrace) (hname : longestName? names t = some name) :
    parseTemplate names (percent :: t) = .token name :: parseTemplate names (t.drop name.length) := by
  have hbraced : bracedName? names t = none := by
    cases t with
    | nil => rfl
    | cons u rest => exact if_neg fun hu => hbrace (congrArg some hu)
  rw [parseTemplate, if_neg (not_not_intro rfl), if_neg hpair]
  split
  · next h =>
    rw [hbraced] at h
    cases h
  · rw [hname]

/-- A text with each percent sign doubled is literal, whatever template follows it. -/
theorem parseTemplate_double_append (s t : Text) :
    parseTemplate names (Text.double percent s ++ t)
      = s.map .literal ++ parseTemplate names t := by
  induction s with
  | nil => rfl
  | cons u rest ih =>
    by_cases hu : u = percent
    · rw [hu, double_self, List.cons_append, List.cons_append, parseTemplate_pair, ih]
      rfl
    · rw [double_other hu, List.cons_append, parseTemplate_other names hu, ih]
      rfl

end

section
variable (values : List (Text × Text))

theorem flatMap_fill_literal (s : Text) :
    (s.map .literal).flatMap (TemplatePart.fill values) = s := by
  rw [List.flatMap_map]
  exact List.flatMap_singleton' s

theorem expandTemplate_nil : expandTemplate values [] = [] := by
  rw [expandTemplate, parseTemplate_nil, List.flatMap_nil]

theorem expandTemplate_double_append (s t : Text) :
    expandTemplate values (Text.double percent s ++ t) = s ++ expandTemplate values t := by
  rw [expandTemplate, expandTemplate, parseTemplate_double_append, List.flatMap_append,
    flatMap_fill_literal]

theorem expandTemplate_double (s : Text) : expandTemplate values (Text.double percent s) = s := by
  have h := expandTemplate_double_append values s []
  rwa [List.append_nil, expandTemplate_nil, List.append_nil] at h

end

/-! ### Occurrences -/

theorem includes_iff {part t : Text} : Text.includes part t = true ↔ part <:+: t := by
  induction t with
  | nil => rw [Text.includes, List.isEmpty_iff, List.infix_nil]
  | cons u rest ih =>
    rw [Text.includes, Bool.or_eq_true, List.isPrefixOf_iff_prefix, ih, List.infix_cons_iff]

end NamePattern
