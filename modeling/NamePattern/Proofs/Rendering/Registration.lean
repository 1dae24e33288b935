import Mathlib.Control.Monad.Basic
import NamePattern.Proofs.Evaluation.Frame
import NamePattern.Proofs.Rendering.Segments

/-!
The order in which fields are registered. A registry is asked for the field of a name and for nothing else,
wherever a pattern is read, a field is evaluated or a target is looked up in turn. So two registries that answer
alike for every name give the same segments and the same texts. The first field that goes by a name is the same
in any order if there is no other one, and among the built-in fields there is none: the names are different
texts, and no name is made of digits.
-/

namespace NamePattern

/-! ### Built-in fields -/

/-- A name of a built-in field is no number. -/
theorem FieldKind.isNumeral_name (kind : FieldKind) : kind.spec.name.isNumeral = false := by
  cases kind <;> decide

/-- Built-in fields have names of their own. -/
theorem FieldKind.name_injective {kind other : FieldKind} (h : kind.spec.name = other.spec.name) :
    kind = other := by
  revert h
  cases kind <;> cases other <;> decide

/-- A name made of digits is the number field's, and any other one is that of the field it names. -/
theorem Field.goesBy_builtin_iff (kind : FieldKind) (name : Text) :
    (Field.builtin kind).goesBy name = true ↔
      kind = .number ∧ name.isNumeral = true ∨ kind ≠ .number ∧ name = kind.spec.name := by
  cases kind <;> simp [goesBy]

/-- No two built-in fields go by the same name. -/
theorem FieldKind.eq_of_goesBy {kind other : FieldKind} {name : Text}
    (h : (Field.builtin kind).goesBy name = true) (hother : (Field.builtin other).goesBy name = true) :
    kind = other := by
  rw [Field.goesBy_builtin_iff] at h hother
  rcases h with ⟨rfl, hnumeral⟩ | ⟨-, rfl⟩
  · rcases hother with ⟨rfl, -⟩ | ⟨-, rfl⟩
    · rfl
    · rw [other.isNumeral_name] at hnumeral
      cases hnumeral
  · rcases hother with ⟨rfl, hnumeral⟩ | ⟨-, hname⟩
    · rw [kind.isNumeral_name] at hnumeral
      cases hnumeral
    · exact name_injective hname

/-! ### Registries that answer alike -/

namespace Registry

/-- Two registries that give the same field for every name. -/
def AnswersAs (registry other : Registry) : Prop := ∀ name, registry.find? name = other.find? name

section
variable {registry other : Registry} (halike : registry.AnswersAs other)
include halike

theorem AnswersAs.knows : registry.knows = other.knows := by
  funext name
  rw [Registry.knows, Registry.knows, halike name]

theorem AnswersAs.read (source : Text) : Pattern.read registry source = Pattern.read other source := by
  rw [Pattern.read, Pattern.read, halike.knows]

theorem AnswersAs.evaluateTarget {room : Room} {state : PassState} {item : Item}
    {request : Replace.Request}
    (h : ∀ target,
      room.evaluate registry state item target request.targetCall.name request.targetCall.args
        = room.evaluate other state item target request.targetCall.name request.targetCall.args) :
    room.evaluateTarget registry state item request = room.evaluateTarget other state item request := by
  rw [Room.evaluateTarget, Room.evaluateTarget, halike]
  cases other.find? request.targetCall.name with
  | none => rfl
  | some target =>
    dsimp only
    rw [h target]

theorem AnswersAs.evaluate (room : Room) (state : PassState) (item : Item) (field : Field)
    (name : Text) (raw : List Text) :
    room.evaluate registry state item field name raw
      = room.evaluate other state item field name raw := by
  induction field, name, raw using evaluation_induction with
  | custom definition name raw => rw [Room.evaluate_custom, Room.evaluate_custom]
  | number name raw => rw [Room.evaluate_number, Room.evaluate_number]
  | plain kind name raw hnumber hreplace =>
    rw [Room.evaluate_plain _ _ _ _ _ hnumber hreplace, Room.evaluate_plain _ _ _ _ _ hnumber hreplace]
  | refused name raw failure hparse =>
    rw [Room.evaluate_replace_of_error _ _ _ _ _ hparse,
      Room.evaluate_replace_of_error _ _ _ _ _ hparse]
  | replace name raw request hparse ih =>
    rw [Room.evaluate_replace_of_request _ _ _ _ _ hparse,
      Room.evaluate_replace_of_request _ _ _ _ _ hparse, halike.evaluateTarget ih]

theorem AnswersAs.renderSegments (room : Room) (item : Item) (length : Nat) (state : PassState)
    (segments : List Segment) :
    room.renderSegments registry item length state segments
      = room.renderSegments other item length state segments := by
  have hsegment : room.renderSegment registry item = room.renderSegment other item := by
    funext state segment
    cases segment with
    | literal t => rfl
    | field call g => simp only [Room.renderSegment, halike call.name, halike.evaluate]
  induction segments generalizing length state with
  | nil => rfl
  | cons segment rest ih => simp only [Room.renderSegments, hsegment, ih]

theorem AnswersAs.render (room : Room) (pattern : Pattern) (items : List Item)
    (options : RenderOptions) (now : Option Instant) :
    room.render registry pattern items options now = room.render other pattern items options now := by
  have hitem : room.renderItem registry pattern = room.renderItem other pattern := by
    funext state item
    exact halike.renderSegments room item 0 state pattern.segments
  rw [Room.render, Room.render, hitem]

theorem AnswersAs.renderWith (room : Room) (pattern : Pattern) (items : List Item)
    (options : Option Json) (now : Option Instant) :
    room.renderWith registry pattern items options now
      = room.renderWith other pattern items options now := by
  simp only [Room.renderWith, halike.render]

end

end Registry

/-! ### Orders of registration -/

/-- The first element of a kind is the same in any order of a list that has one such element at most. -/
theorem find_eq_of_perm {α : Type} {p : α → Bool} {l other : List α} (h : l.Perm other)
    (hsole : ∀ a ∈ other, ∀ b ∈ other, p a = true → p b = true → a = b) :
    l.find? p = other.find? p := by
  cases hfind : l.find? p with
  | none =>
    refine (List.find?_eq_none.2 fun a ha => ?_).symm
    exact List.find?_eq_none.1 hfind a (h.mem_iff.2 ha)
  | some a =>
    have ha : a ∈ other := h.mem_iff.1 (List.mem_of_find?_eq_some hfind)
    have hp := List.find?_some hfind
    cases hother : other.find? p with
    | none => exact absurd hp (List.find?_eq_none.1 hother a ha)
    | some b =>
      have hb := List.mem_of_find?_eq_some hother
      rw [hsole a ha b hb hp (List.find?_some hother)]

theorem duplicateKind_eq_none {kinds seen : List FieldKind} (hnodup : kinds.Nodup)
    (hfresh : ∀ kind ∈ kinds, kind ∉ seen) : duplicateKind? seen kinds = none := by
  induction kinds generalizing seen with
  | nil => rfl
  | cons kind rest ih =>
    obtain ⟨hkind, hrest⟩ := List.nodup_cons.1 hnodup
    obtain ⟨hseen, hfresh⟩ := List.forall_mem_cons.1 hfresh
    rw [duplicateKind?, if_neg hseen]
    refine ih hrest fun other hother hmem => ?_
    rcases List.mem_cons.1 hmem with rfl | hmem
    · exact hkind hother
    · exact hfresh other hother hmem

namespace Registry

/-- Fields of different kinds, the required ones among them, make a registry. -/
theorem ofFields_eq_ok {fields : List Field} {required : List FieldKind}
    (hdistinct : (fields.map Field.kind).Nodup)
    (hrequired : ∀ kind ∈ required, kind ∈ fields.map Field.kind) :
    ofFields fields required = .ok ⟨fields, hdistinct⟩ := by
  have hnone : duplicateKind? [] (fields.map Field.kind) = none :=
    duplicateKind_eq_none hdistinct fun _ _ => List.not_mem_nil
  have hthere : required.find? (fun kind => !(fields.map Field.kind).contains kind) = none :=
    List.find?_eq_none.2 fun kind hkind => by simpa using hrequired kind hkind
  rw [ofFields]
  split
  · next kind hduplicate => rw [hnone] at hduplicate; cases hduplicate
  · rw [hthere]

/-- At most one built-in field goes by a name. -/
theorem eq_of_goesBy_builtin {name : Text} {field other : Field} (hfield : field ∈ builtin.fields)
    (hother : other ∈ builtin.fields) (h : field.goesBy name = true)
    (hname : other.goesBy name = true) : field = other := by
  obtain ⟨kind, rfl⟩ := standard_builtin field hfield
  obtain ⟨second, rfl⟩ := standard_builtin other hother
  rw [FieldKind.eq_of_goesBy h hname]

theorem answersAs_of_perm {registry : Registry} (h : registry.fields.Perm builtin.fields) :
    registry.AnswersAs builtin := fun _ =>
  find_eq_of_perm h fun _ hfield _ hother => eq_of_goesBy_builtin hfield hother

end Registry

/-- The built-in fields make a registry in any order, and the order has no part in what it does: patterns are
read alike, every field is evaluated alike with whatever is nested in its targets, and the texts of a pass are
the same. No name belongs to two of the fields. -/
theorem order_of_registration_is_no_matter :
    (∀ fields : List Field, fields.Perm Registry.builtin.fields → ∃ registry,
      Registry.ofFields fields FieldKind.all = .ok registry ∧ registry.fields = fields ∧
      (∀ source, Pattern.read registry source = Pattern.read .builtin source) ∧
      (∀ state item field name raw, evaluate registry state item field name raw
        = evaluate .builtin state item field name raw) ∧
      (∀ pattern items options now, Pattern.render registry pattern items options now
        = Pattern.render .builtin pattern items options now) ∧
      ∀ pattern items options now, Pattern.renderWith registry pattern items options now
        = Pattern.renderWith .builtin pattern items options now) ∧
    ∀ name, ∀ field ∈ Registry.builtin.fields, ∀ other ∈ Registry.builtin.fields,
      field.goesBy name = true → other.goesBy name = true → field = other := by
  refine ⟨fun fields hperm => ?_, fun name field hfield other hother h hname =>
    Registry.eq_of_goesBy_builtin hfield hother h hname⟩
  have hkinds := hperm.map Field.kind
  have hdistinct : (fields.map Field.kind).Nodup := hkinds.nodup_iff.2 Registry.builtin.distinct
  have hrequired : ∀ kind ∈ FieldKind.all, kind ∈ fields.map Field.kind := by
    intro kind _
    refine hkinds.mem_iff.2 ?_
    cases kind <;> decide
  have halike : Registry.AnswersAs ⟨fields, hdistinct⟩ .builtin := Registry.answersAs_of_perm hperm
  exact ⟨⟨fields, hdistinct⟩, Registry.ofFields_eq_ok hdistinct hrequired, rfl, halike.read,
    halike.evaluate .unbounded, halike.render .unbounded, halike.renderWith .unbounded⟩

/-- With the fields registered the other way round, the attributes are asked first whether they go by a name,
and the numbers last. -/
theorem reversed_registration_gives_same_texts :
    let source := text "[1][replace, [replace, [[layer name]], [[a]], [[b]] ], [b], [c] ][number]"
    let items := [Item.within [], Item.within []]
    ∃ registry, Registry.ofFields Registry.builtin.fields.reverse FieldKind.all = .ok registry ∧
      registry.fields ≠ Registry.builtin.fields ∧
      (Pattern.read registry source).render registry items {} none
        = .ok [text "1lcyer[number]", text "2lcyer[number]"] := by
  intro source items
  obtain ⟨horder, -⟩ := order_of_registration_is_no_matter
  obtain ⟨registry, hmade, hfields, hread, -, hrender, -⟩ :=
    horder Registry.builtin.fields.reverse (List.reverse_perm _)
  have hbuiltin : (Pattern.read .builtin source).render .builtin items {} none
      = .ok [text "1lcyer[number]", text "2lcyer[number]"] := by
    decide +kernel
  refine ⟨registry, hmade, ?_, ?_⟩
  · rw [hfields]
    intro hsame
    have hfirst := congrArg (List.map Field.kind) hsame
    exact absurd hfirst (by decide)
  · rw [hread, hrender, hbuiltin]

end NamePattern
