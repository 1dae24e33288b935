import NamePattern.Options
import NamePattern.Proofs.Json.Shape
import NamePattern.Tool.Request

/-!
The input of the tool: which values are requests, and which ones are options of a pass. The options of
a pass that were read once are read again as the same options.
-/

namespace NamePattern

/-! ### Options -/

/-- The keys of an object that stands for options. -/
structure RenderOptions.Fields (object : Json) (options : RenderOptions) : Prop where
  fileExtension : Shape.Defaulted (text "png") Shape.ofText (object.get? (text "fileExtension"))
    options.fileExtension
  dateFormat : Shape.Defaulted (text "%Y-%m-%d") Shape.nonemptyText (object.get? (text "dateFormat"))
    options.dateFormat
  untitledImageName : Shape.Defaulted (text "Untitled") Shape.ofText
    (object.get? (text "untitledImageName")) options.untitledImageName
  noOthers : ∀ entries, object = .object entries → ∀ entry ∈ entries, entry.1 ∈ RenderOptions.keys

/-- The options that a value stands for: missing ones and null are the defaults. -/
inductive RenderOptions.GivenBy : Shape RenderOptions
  | missing : GivenBy none {}
  | null : GivenBy (some .null) {}
  | object {value options} (h : Shape.object RenderOptions.Fields value options) :
      GivenBy value options

namespace RenderOptions

theorem reads_options : reader.Reads (Shape.object Fields) := by
  refine Reader.reads_object fun path entries options => ?_
  simp only [Checked.seq_eq_valid, Checked.map_eq_valid,
    Reader.field_eq_valid (Reader.reads_withDefault Reader.reads_string),
    Reader.field_eq_valid (Reader.reads_withDefault Reader.reads_nonemptyString),
    Reader.noOtherKeys_eq_valid]
  constructor
  · rintro ⟨_, ⟨_, ⟨_, ⟨fileExtension, hextension, rfl⟩, dateFormat, hformat, rfl⟩, name, hname, rfl⟩,
      -, hkeys, rfl⟩
    exact ⟨hextension, hformat, hname, by rintro _ ⟨⟩; exact hkeys⟩
  · rintro ⟨hextension, hformat, hname, hkeys⟩
    exact ⟨_, ⟨_, ⟨_, ⟨_, hextension, rfl⟩, _, hformat, rfl⟩, _, hname, rfl⟩, (), hkeys entries rfl, rfl⟩

theorem resolve_eq_valid {value : Option Json} {options : RenderOptions} :
    resolve value = .valid options ↔ GivenBy value options := by
  have hdefaults : reader [] (some (.object [])) = .valid {} := by rfl
  rw [resolve.eq_def]
  split
  · rw [hdefaults]
    exact ⟨fun | rfl => .missing, fun | .missing => rfl⟩
  · rw [hdefaults]
    exact ⟨fun | rfl => .null, fun | .null => rfl⟩
  · next value hnull =>
    rw [reads_options]
    refine ⟨.object, fun h => ?_⟩
    cases h with
    | null => exact absurd rfl hnull
    | object h => exact h

theorem GivenBy.dateFormat_ne_nil {value : Option Json} {options : RenderOptions}
    (h : GivenBy value options) : options.dateFormat ≠ [] := by
  have hdefault : text "%Y-%m-%d" ≠ [] := by decide
  cases h with
  | missing => exact hdefault
  | null => exact hdefault
  | object h =>
    obtain ⟨entries, -, hfields⟩ := h
    have hformat := hfields.dateFormat
    generalize (Json.object entries).get? (text "dateFormat") = found at hformat
    generalize options.dateFormat = format at hformat
    cases hformat with
    | missing => exact hdefault
    | given h => exact h.2

/-- Options that a value stands for stand for themselves: to check them again changes nothing. -/
theorem GivenBy.resolve_toJson {value : Option Json} {options : RenderOptions}
    (h : GivenBy value options) : resolve (some options.toJson) = .valid options := by
  refine resolve_eq_valid.2 (.object ⟨_, rfl, .given rfl, .given ⟨rfl, h.dateFormat_ne_nil⟩,
    .given rfl, ?_⟩)
  rintro _ ⟨⟩ entry hentry
  have hkey : entry.1 ∈ List.map Prod.fst _ := List.mem_map_of_mem hentry
  exact hkey

end RenderOptions

/-! ### Requests -/

namespace Tool

/-- The keys of an object that stands for a layer. -/
structure LayerFields (object : Json) (layer : Layer) : Prop where
  id : Shape.integer (object.get? (text "id")) layer.id
  name : Shape.ofText (object.get? (text "name")) layer.name
  kind : Shape.listed [(text "layer", .pixels), (text "group", .group)] (object.get? (text "type"))
    layer.kind
  parent : Shape.Optional Shape.integer (object.get? (text "parent_id")) layer.parent
  tags : Shape.Defaulted [] (Shape.array Shape.ofText) (object.get? (text "tags")) layer.tags
  width : Shape.Defaulted 0 Shape.natural (object.get? (text "width")) layer.width
  height : Shape.Defaulted 0 Shape.natural (object.get? (text "height")) layer.height
  x : Shape.Defaulted 0 Shape.integer (object.get? (text "x")) layer.x
  y : Shape.Defaulted 0 Shape.integer (object.get? (text "y")) layer.y

/-- The keys of an object that stands for an image. -/
structure ImageFields (object : Json) (image : ImageInfo) : Prop where
  name : Shape.Defaulted none (Shape.Nullable Shape.ofText) (object.get? (text "name")) image.name
  width : Shape.Defaulted 0 Shape.natural (object.get? (text "width")) image.width
  height : Shape.Defaulted 0 Shape.natural (object.get? (text "height")) image.height

/-- The keys of an object that stands for a request. -/
structure RequestFields (object : Json) (request : Request) : Prop where
  action : Shape.listed [(text "fields", .fields), (text "parse", .parse), (text "render", .render),
    (text "field_at", .fieldAt)] (object.get? (text "action")) request.action
  pattern : Shape.Optional Shape.ofText (object.get? (text "pattern")) request.pattern
  layers : Shape.Optional (Shape.array (Shape.object LayerFields)) (object.get? (text "layers"))
    request.layers
  image : Shape.Optional (Shape.object ImageFields) (object.get? (text "image")) request.image
  includeGroups : Shape.Optional Shape.boolean (object.get? (text "include_groups"))
    request.includeGroups
  options : Shape.Optional Shape.record (object.get? (text "options")) request.options
  position : Shape.Optional Shape.integer (object.get? (text "position")) request.position

/-- The request that some arguments stand for. -/
def Request.GivenBy : Shape Request := Shape.object RequestFields

/-- A list that may be missing, and is then empty. -/
theorem defaulted_nil {α : Type} {shape : Shape (List α)} {value : Option Json} {as : List α} :
    Shape.Defaulted [] shape value as ↔ ∃ found, Shape.Optional shape value found ∧ found.getD [] = as := by
  constructor
  · rintro (_ | h)
    · exact ⟨none, .missing, rfl⟩
    · exact ⟨some as, .given h, rfl⟩
  · rintro ⟨_, _ | h, rfl⟩
    · exact .missing
    · exact .given h

theorem reads_layer : layerReader.Reads (Shape.object LayerFields) := by
  have hkind : kindReader.Reads _ := Reader.reads_listed (by decide)
  refine Reader.reads_object fun path entries layer => ?_
  simp only [Checked.seq_eq_valid, Checked.map_eq_valid, Reader.field_eq_valid Reader.reads_integer,
    Reader.field_eq_valid Reader.reads_string, Reader.field_eq_valid hkind,
    Reader.field_eq_valid (Reader.reads_optional Reader.reads_integer),
    Reader.field_eq_valid (Reader.reads_optional (Reader.reads_array Reader.reads_string)),
    Reader.field_eq_valid (Reader.reads_withDefault Reader.reads_natural),
    Reader.field_eq_valid (Reader.reads_withDefault Reader.reads_integer)]
  constructor
  · rintro ⟨_, ⟨_, ⟨_, ⟨_, ⟨_, ⟨_, ⟨_, ⟨_, ⟨id, hid, rfl⟩, name, hname, rfl⟩, kind, hkind, rfl⟩, parent,
      hparent, rfl⟩, tags, htags, rfl⟩, width, hwidth, rfl⟩, height, hheight, rfl⟩, x, hx, rfl⟩, y, hy,
      rfl⟩
    exact ⟨hid, hname, hkind, hparent, defaulted_nil.2 ⟨tags, htags, rfl⟩, hwidth, hheight, hx, hy⟩
  · rintro ⟨hid, hname, hkind, hparent, htags, hwidth, hheight, hx, hy⟩
    obtain ⟨tags, htags, heq⟩ := defaulted_nil.1 htags
    exact ⟨_, ⟨_, ⟨_, ⟨_, ⟨_, ⟨_, ⟨_, ⟨_, ⟨_, hid, rfl⟩, _, hname, rfl⟩, _, hkind, rfl⟩, _, hparent, rfl⟩,
      tags, htags, rfl⟩, _, hwidth, rfl⟩, _, hheight, rfl⟩, _, hx, rfl⟩, _, hy, by rw [heq]⟩

theorem reads_image : imageReader.Reads (Shape.object ImageFields) := by
  refine Reader.reads_object fun path entries image => ?_
  simp only [Checked.seq_eq_valid, Checked.map_eq_valid,
    Reader.field_eq_valid (Reader.reads_withDefault (Reader.reads_nullable Reader.reads_string)),
    Reader.field_eq_valid (Reader.reads_withDefault Reader.reads_natural)]
  constructor
  · rintro ⟨_, ⟨_, ⟨name, hname, rfl⟩, width, hwidth, rfl⟩, height, hheight, rfl⟩
    exact ⟨hname, hwidth, hheight⟩
  · rintro ⟨hname, hwidth, hheight⟩
    exact ⟨_, ⟨_, ⟨_, hname, rfl⟩, _, hwidth, rfl⟩, _, hheight, rfl⟩

theorem reads_request : requestReader.Reads Request.GivenBy := by
  have haction : actionReader.Reads _ := Reader.reads_listed (by decide)
  refine Reader.reads_object fun path entries request => ?_
  simp only [Checked.seq_eq_valid, Checked.map_eq_valid, Reader.field_eq_valid haction,
    Reader.field_eq_valid (Reader.reads_optional Reader.reads_string),
    Reader.field_eq_valid (Reader.reads_optional (Reader.reads_array reads_layer)),
    Reader.field_eq_valid (Reader.reads_optional reads_image),
    Reader.field_eq_valid (Reader.reads_optional Reader.reads_boolean),
    Reader.field_eq_valid (Reader.reads_optional Reader.reads_record),
    Reader.field_eq_valid (Reader.reads_optional Reader.reads_integer)]
  constructor
  · rintro ⟨_, ⟨_, ⟨_, ⟨_, ⟨_, ⟨_, ⟨action, haction, rfl⟩, pattern, hpattern, rfl⟩, layers, hlayers, rfl⟩,
      image, himage, rfl⟩, groups, hgroups, rfl⟩, options, hoptions, rfl⟩, position, hposition, rfl⟩
    exact ⟨haction, hpattern, hlayers, himage, hgroups, hoptions, hposition⟩
  · rintro ⟨haction, hpattern, hlayers, himage, hgroups, hoptions, hposition⟩
    exact ⟨_, ⟨_, ⟨_, ⟨_, ⟨_, ⟨_, ⟨_, haction, rfl⟩, _, hpattern, rfl⟩, _, hlayers, rfl⟩, _, himage, rfl⟩,
      _, hgroups, rfl⟩, _, hoptions, rfl⟩, _, hposition, rfl⟩

/-- Arguments are read as a request just when they have the shape of one. -/
theorem ofJson_eq_valid {args : Option Json} {request : Request} :
    Request.ofJson args = .valid request ↔ Request.GivenBy args request :=
  reads_request [] args request

end Tool

end NamePattern
