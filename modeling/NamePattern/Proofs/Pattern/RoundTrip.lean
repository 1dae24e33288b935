import NamePattern.Proofs.Pattern.Written

/-!
Patterns written with doubled brackets and wrapped arguments read back as what was written. The scan
counts how deep it is, the splitting of arguments only whether it is inside one, and the taking of
values looks at both ends of an argument; on written text all of them agree on the brackets that stand
for themselves, for any run of brackets and at any boundary between two parts.
-/

namespace NamePattern

/-- A part of a pattern as it is meant: output text, or a field with the values of its arguments. -/
inductive PlainPart
  | literal (content : Text)
  | field (name : Text) (values : List Text)
  deriving DecidableEq

namespace PlainPart

/-- The text that stands for a part. -/
def written : PlainPart → Text
  | .literal t => writtenLiteral t
  | .field name values => writtenCall name values

/-- Puts a part in front of others: an empty literal leaves no trace, and two literals in a row are
one. -/
def prepend : PlainPart → List PlainPart → List PlainPart
  | .literal [], parts => parts
  | .literal t, .literal s :: parts => .literal (t ++ s) :: parts
  | part, parts => part :: parts

/-- Parts without empty literals and with adjacent literals as one. -/
def merged (parts : List PlainPart) : List PlainPart := parts.foldr prepend []

end PlainPart

/-- The pattern made of some parts. -/
def writtenPattern (parts : List PlainPart) : Text := parts.flatMap PlainPart.written

/-- What a segment means. -/
def Segment.plain : Segment → PlainPart
  | .literal t => .literal t
  | .field call _ => .field call.name (argumentValues call.args)

/-! ### Written patterns -/

namespace PlainPart

theorem prepend_literal_cons (u : CodeUnit) (t : Text) (parts : List PlainPart) :
    prepend (.literal [u]) (prepend (.literal t) parts) = prepend (.literal (u :: t)) parts := by
  rcases t with _ | ⟨v, rest⟩ <;> rcases parts with _ | ⟨_ | _, _⟩ <;> simp [prepend]

end PlainPart

theorem plain_prependLiteral {t : Text} (h : t ≠ []) (segments : List Segment) :
    (Segment.prependLiteral t segments).map Segment.plain
      = PlainPart.prepend (.literal t) (segments.map Segment.plain) := by
  rcases t with _ | ⟨u, t⟩
  · exact absurd rfl h
  rcases segments with _ | ⟨_ | _, _⟩ <;>
    simp [Segment.prependLiteral, Segment.plain, PlainPart.prepend]

/-- Doubled text in front of a pattern is output text in front of its segments. -/
theorem plain_segments_literal (known : Text → Bool) (t rest : Text) (start : Nat) :
    (segmentsFrom known start (writtenLiteral t ++ rest)).map Segment.plain
      = PlainPart.prepend (.literal t)
          ((segmentsFrom known (start + (writtenLiteral t).length) rest).map Segment.plain) := by
  simp only [writtenLiteral]
  induction t generalizing start with
  | nil => cases rest <;> rfl
  | cons u more ih =>
    cases hu : isBracket u with
    | true =>
      have hlen : start + 2 + (doubleBrackets more).length
          = start + (u :: u :: doubleBrackets more).length := by
        simp only [List.length_cons]
        omega
      rw [doubleBrackets_bracket hu, List.cons_append, List.cons_append, segmentsFrom_doubled _ _ hu,
        plain_prependLiteral (List.cons_ne_nil u []), ih, PlainPart.prepend_literal_cons, hlen]
    | false =>
      have hlen : start + 1 + (doubleBrackets more).length
          = start + (u :: doubleBrackets more).length := by
        simp only [List.length_cons]
        omega
      obtain ⟨ho, -⟩ := isBracket_eq_false.1 hu
      rw [doubleBrackets_other hu, List.cons_append,
        segmentsFrom_single _ _ ho (fun h => by rw [hu] at h; cases h),
        plain_prependLiteral (List.cons_ne_nil u []), ih, PlainPart.prepend_literal_cons, hlen]

/-- A written call in front of a pattern is its field in front of the segments. -/
theorem plain_segments_call {known : Text → Bool} {name : Text} (hname : IsFieldName known name)
    (values : List Text) (rest : Text) (start : Nat) :
    (segmentsFrom known start (writtenCall name values ++ rest)).map Segment.plain
      = .field name values ::
          (segmentsFrom known (start + (writtenCall name values).length) rest).map Segment.plain := by
  have hargs : ∀ arg ∈ values.map WrittenArgument.wrapped, arg.Sound := by
    intro arg harg
    obtain ⟨v, -, rfl⟩ := List.mem_map.1 harg
    exact .wrapped v
  have hvalues : (values.map WrittenArgument.wrapped).map WrittenArgument.value = values := by
    rw [List.map_map]
    exact List.map_id values
  rw [writtenCall_eq, segmentsFrom_writtenSource hname hargs, List.map_cons, Segment.plain,
    argumentValues_rawArguments hargs, hvalues]

theorem plain_segments_written (known : Text → Bool) (parts : List PlainPart)
    (hfield : ∀ name values, .field name values ∈ parts → IsFieldName known name) (start : Nat) :
    (segmentsFrom known start (writtenPattern parts)).map Segment.plain = PlainPart.merged parts := by
  induction parts generalizing start with
  | nil => rw [writtenPattern, List.flatMap_nil, segmentsFrom_nil]; rfl
  | cons part rest ih =>
    have hrest := ih fun name values h => hfield name values (List.mem_cons_of_mem part h)
    rw [writtenPattern, List.flatMap_cons]
    cases part with
    | literal t =>
      refine (plain_segments_literal known t _ start).trans ?_
      exact congrArg (PlainPart.prepend (.literal t)) (hrest _)
    | field name values =>
      refine (plain_segments_call (hfield name values List.mem_cons_self) values _ start).trans ?_
      exact congrArg (PlainPart.field name values :: ·) (hrest _)

/-- A pattern written from parts has these parts again, empty literals apart and adjacent ones as one:
each field with its name and with exactly the values its arguments were written from. -/
theorem written_pattern_reads_back (known : Text → Bool) (parts : List PlainPart)
    (hfield : ∀ name values, .field name values ∈ parts → IsFieldName known name) :
    (Pattern.ofText known (writtenPattern parts)).segments.map Segment.plain
      = PlainPart.merged parts := by
  rw [segments_ofText]
  exact plain_segments_written known parts hfield 0

/-- A literal that ends in brackets in front of a call whose values are made of brackets, commas and
blanks. -/
theorem brackets_at_every_boundary_read_back :
    (Pattern.ofText (· == text "n") (writtenPattern
        [.literal (text "a["), .literal (text "]["),
          .field (text "n") [text "[[],", text "", text " ]]"], .literal (text ""),
          .field (text "n") []])).segments.map Segment.plain
      = [.literal (text "a[]["), .field (text "n") [text "[[],", text "", text " ]]"],
          .field (text "n") []] := by
  have hname : IsFieldName (· == text "n") (text "n") :=
    ⟨by decide, by decide, by decide, not_bracket_of_all (by decide)⟩
  refine (written_pattern_reads_back _ _ ?_).trans (by decide +kernel)
  intro name values h
  simp only [List.mem_cons, List.not_mem_nil, or_false, reduceCtorEq, PlainPart.field.injEq,
    false_or] at h
  obtain ⟨rfl, -⟩ | ⟨rfl, -⟩ := h
  · exact hname
  · exact hname

end NamePattern
