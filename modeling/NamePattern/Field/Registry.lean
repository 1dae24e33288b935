import NamePattern.Field.Number
import NamePattern.Field.LayerName
import NamePattern.Field.ImageName
import NamePattern.Field.LayerPath
import NamePattern.Field.Tags
import NamePattern.Field.CurrentDate
import NamePattern.Field.Attributes
import NamePattern.Field.Replace

/-!
Fields and registries. A field is built in or brought along by the host; a registry holds at most one
field of each kind, in the order in which they were registered, and looks them up by the names written
in patterns.
-/

namespace NamePattern

/-- What a custom field answers. Going out of range fails the field; breaking stops the pass. -/
inductive Outcome
  | value (t : Text)
  | failed (reason : Text)
  | outOfRange (message : Text)
  | broken (message : Text)
  deriving DecidableEq

/-- How a custom field answers for an item, from the name it is called by and the argument values. It
sees the state of the pass and may move counters. -/
structure Answer where
  run : PassState → Item → Text → List Text → Outcome × PassState

/-- An answer that the name and the argument values alone decide. -/
instance : Coe (Text → List Text → Outcome) Answer where
  coe answer := ⟨fun state _ name values => (answer name values, state)⟩

/-- A field of the host. Unless it says otherwise it goes by its own name. -/
structure CustomField where
  kind : FieldKind
  name : Text
  minArgs : Nat
  maxArgs : Option Nat
  examples : List ExampleLine
  answer : Answer
  goesBy : Text → Bool := (· == name)

/-- A field. -/
inductive Field
  | builtin (kind : FieldKind)
  | custom (definition : CustomField)

/-- The description of a built-in field. -/
def FieldKind.spec : FieldKind → FieldSpec
  | .number => Number.spec
  | .layerName => LayerName.spec
  | .imageName => ImageName.spec
  | .layerPath => LayerPath.spec
  | .tags => Tags.spec
  | .currentDate => CurrentDate.spec
  | .attributes => Attributes.spec
  | .replace => Replace.spec

/-- The description of a custom field. -/
def CustomField.spec (field : CustomField) : FieldSpec where
  kind := field.kind
  name := field.name
  displayName := field.name
  insertText := bracketed field.name
  minArgs := field.minArgs
  maxArgs := field.maxArgs
  examples := field.examples

namespace Field

/-- The description of a field. -/
def spec : Field → FieldSpec
  | .builtin kind => kind.spec
  | .custom definition => definition.spec

/-- The kind of a field. -/
def kind : Field → FieldKind
  | .builtin kind => kind
  | .custom definition => definition.kind

/-- Whether a name written in a pattern refers to a field. The number field is written as digits. -/
def goesBy (field : Field) (name : Text) : Bool :=
  match field with
  | .builtin .number => name.isNumeral
  | .builtin kind => name == kind.spec.name
  | .custom definition => definition.goesBy name

end Field

/-- Fields of different kinds in the order in which they were registered. -/
structure Registry where
  fields : List Field
  distinct : (fields.map Field.kind).Nodup

/-- Why fields make no registry. -/
inductive RegistryError
  | duplicate (kind : FieldKind)
  | missing (kind : FieldKind)
  deriving DecidableEq

/-- The text of an error. -/
def RegistryError.message : RegistryError → Text
  | .duplicate kind => text "Field \"" ++ kind.toText ++ text "\" is registered more than once."
  | .missing kind => text "Field \"" ++ kind.toText ++ text "\" has no definition."

/-- The first of some kinds that is among the seen ones or an earlier one again. -/
def duplicateKind? (seen : List FieldKind) : List FieldKind → Option FieldKind
  | [] => none
  | kind :: rest => if kind ∈ seen then some kind else duplicateKind? (kind :: seen) rest

/-- Without a duplicate the kinds differ from each other and from the seen ones. -/
theorem nodup_of_duplicateKind {seen kinds : List FieldKind}
    (h : duplicateKind? seen kinds = none) : kinds.Nodup ∧ ∀ kind ∈ kinds, kind ∉ seen := by
  induction kinds generalizing seen with
  | nil => simp
  | cons kind rest ih =>
    rw [duplicateKind?] at h
    split at h
    · simp at h
    · next fresh =>
      obtain ⟨nodup, apart⟩ := ih h
      refine ⟨List.nodup_cons.2 ⟨fun again => apart kind again (List.mem_cons_self ..), nodup⟩, ?_⟩
      intro other mem
      rcases List.mem_cons.1 mem with rfl | mem
      · exact fresh
      · exact fun seen => apart other mem (List.mem_cons_of_mem _ seen)

namespace Registry

/-- The registry of some fields, in which every required kind must be there. -/
def ofFields (fields : List Field) (required : List FieldKind) : Except RegistryError Registry :=
  match h : duplicateKind? [] (fields.map Field.kind) with
  | some kind => .error (.duplicate kind)
  | none =>
    match required.find? fun kind => !(fields.map Field.kind).contains kind with
    | some kind => .error (.missing kind)
    | none => .ok ⟨fields, (nodup_of_duplicateKind h).1⟩

/-- The built-in fields in the order in which pickers list them. -/
def builtin : Registry where
  fields := [FieldKind.number, .layerName, .imageName, .layerPath, .replace, .tags, .currentDate,
    .attributes].map Field.builtin
  distinct := by decide

/-- The field of a kind. -/
def get? (registry : Registry) (kind : FieldKind) : Option Field :=
  registry.fields.find? fun field => field.kind = kind

/-- The first field that goes by a name. -/
def find? (registry : Registry) (name : Text) : Option Field :=
  registry.fields.find? fun field => field.goesBy name

/-- Whether a name belongs to some field. -/
def knows (registry : Registry) (name : Text) : Bool := (registry.find? name).isSome

/-- The descriptions of all fields. -/
def specs (registry : Registry) : List FieldSpec := registry.fields.map Field.spec

end Registry

end NamePattern
