import NamePattern.Proofs.Layers.Preorder
import NamePattern.Proofs.Rendering.Steady
import NamePattern.Proofs.Tool.Schema
import NamePattern.Tool.Reply

/-!
What the tool answers. A request to render is refused for what is wrong with its arguments, its options or its
layers, and never for what its pattern says. Nothing else stops a request but a want of room, for a name that it
asks for or for the text of its reply; options that were accepted are accepted again when the pass begins.
-/

namespace NamePattern.Tool

/-- Why a request to render is refused: the first of the things it needs that is missing or not what it
should be. -/
inductive RenderRefused (request : Request) : Refusal → Prop
  | noPattern (hpattern : request.pattern = none) :
      RenderRefused request (.missing .render (text "pattern"))
  | noLayers {source} (hpattern : request.pattern = some source) (hlayers : request.layers = none) :
      RenderRefused request (.missing .render (text "layers"))
  | options {source layers issues} (hpattern : request.pattern = some source)
      (hlayers : request.layers = some layers)
      (hoptions : RenderOptions.resolve request.options = .invalid issues) :
      RenderRefused request (.invalidOptions issues)
  | layers {source layers options error} (hpattern : request.pattern = some source)
      (hlayers : request.layers = some layers)
      (hoptions : RenderOptions.GivenBy request.options options)
      (hproblem : Layer.FirstProblem layers error) : RenderRefused request (.invalidLayers error)

/-- What a request to render asks for if nothing about it is refused: the pattern as text, the options and
the items of its layers. -/
structure Accepted (request : Request) (source : Text) (options : RenderOptions) (items : List Item) :
    Prop where
  pattern : request.pattern = some source
  resolved : RenderOptions.GivenBy request.options options
  flattened : ∃ layers, request.layers = some layers ∧
    Layer.flatten layers (request.image.getD {}) (request.includeGroups.getD false) = .ok items

theorem namedItems_columns {items : List Item} {texts : List Text}
    (h : texts.length = items.length) :
    (namedItems items texts).map NamedItem.path = items.map (fun item => item.path ++ [item.name]) ∧
      (namedItems items texts).map NamedItem.name = texts := by
  induction items generalizing texts with
  | nil =>
    obtain rfl := List.length_eq_zero_iff.1 h
    exact ⟨rfl, rfl⟩
  | cons item rest ih =>
    cases texts with
    | nil => cases h
    | cons t more =>
      obtain ⟨hpaths, hnames⟩ := ih (Nat.succ.inj h)
      simp only [namedItems, List.zipWith_cons_cons, List.map_cons] at hpaths hnames ⊢
      rw [hpaths, hnames]
      exact ⟨rfl, rfl⟩

theorem renderLayers_of_accepted {request : Request} {source : Text} {options : RenderOptions}
    {items : List Item} (h : Accepted request source options items) {room : Room}
    {now : Option Instant} :
    renderLayers room now request
      = match room.render .builtin (Pattern.read .builtin source) items options now with
        | .ok texts => .ok (.names (namedItems items texts))
        | .error fault => .error (.stopped (.fault fault)) := by
  obtain ⟨hpattern, hoptions, layers, hlayers, hitems⟩ := h
  rw [renderLayers, hpattern, hlayers, RenderOptions.resolve_eq_valid.2 hoptions]
  simp only [need, bind, Except.bind, hitems, Room.renderWith, hoptions.resolve_toJson]
  cases room.render .builtin (Pattern.read .builtin source) items options now <;> rfl

theorem renderLayers_of_refused {request : Request} {refusal : Refusal}
    (h : RenderRefused request refusal) (room : Room) (now : Option Instant) :
    renderLayers room now request = .error refusal := by
  cases h with
  | noPattern hpattern => rw [renderLayers, hpattern]; rfl
  | noLayers hpattern hlayers => rw [renderLayers, hpattern, hlayers]; rfl
  | options hpattern hlayers hoptions => rw [renderLayers, hpattern, hlayers, hoptions]; rfl
  | layers hpattern hlayers hoptions hproblem =>
    rw [renderLayers, hpattern, hlayers, RenderOptions.resolve_eq_valid.2 hoptions]
    simp only [need, bind, Except.bind, Layer.flatten_eq_error.2 hproblem]

/-- A request to render is refused or accepted. -/
theorem refused_or_accepted (request : Request) :
    (∃ refusal, RenderRefused request refusal) ∨
      ∃ source options items, Accepted request source options items := by
  cases hpattern : request.pattern with
  | none => exact .inl ⟨_, .noPattern hpattern⟩
  | some source =>
    cases hlayers : request.layers with
    | none => exact .inl ⟨_, .noLayers hpattern hlayers⟩
    | some layers =>
      cases hresolve : RenderOptions.resolve request.options with
      | invalid issues => exact .inl ⟨_, .options hpattern hlayers hresolve⟩
      | valid options =>
        have hoptions := RenderOptions.resolve_eq_valid.1 hresolve
        cases hitems : Layer.flatten layers (request.image.getD {})
            (request.includeGroups.getD false) with
        | error e => exact .inl ⟨_, .layers hpattern hlayers hoptions (Layer.flatten_eq_error.1 hitems)⟩
        | ok items => exact .inr ⟨source, options, items, hpattern, hoptions, layers, hlayers, hitems⟩

/-- Whether a refusal is about what a request asks for, and neither about arguments that make no request
nor about a pass that was stopped. -/
def Refusal.AboutRequest : Refusal → Prop
  | .missing _ _ | .invalidOptions _ | .invalidLayers _ => True
  | .invalidArguments _ | .stopped _ => False

theorem aboutRequest_of_need {α : Type} {action : Action} {name : String} {argument : Option α}
    {refusal : Refusal} (h : need action name argument = .error refusal) : refusal.AboutRequest := by
  cases argument with
  | none => cases h; trivial
  | some a => cases h

theorem aboutRequest_of_renderRefused {request : Request} {refusal : Refusal}
    (h : RenderRefused request refusal) : refusal.AboutRequest := by
  cases h <;> trivial

/-- No action but to render names stops short. -/
theorem aboutRequest_of_perform {room : Room} {now : Option Instant} {request : Request}
    {refusal : Refusal} (haction : request.action ≠ .render)
    (h : perform room now request = .error refusal) : refusal.AboutRequest := by
  rw [perform] at h
  cases hrequest : request.action with
  | fields => rw [hrequest] at h; cases h
  | parse =>
    rw [hrequest] at h
    dsimp only at h
    cases hsource : need .parse "pattern" request.pattern with
    | error e => rw [hsource] at h; cases h; exact aboutRequest_of_need hsource
    | ok source => rw [hsource] at h; cases h
  | render => exact absurd hrequest haction
  | fieldAt =>
    rw [hrequest] at h
    dsimp only at h
    rw [findField] at h
    cases hsource : need .fieldAt "pattern" request.pattern with
    | error e => rw [hsource] at h; cases h; exact aboutRequest_of_need hsource
    | ok source =>
      rw [hsource] at h
      cases hposition : need .fieldAt "position" request.position with
      | error e => rw [hposition] at h; cases h; exact aboutRequest_of_need hposition
      | ok position => rw [hposition] at h; cases h

/-- What was not stopped before is stopped for its text alone. -/
theorem respond_eq_stopped {room : Room} {found : Except Refusal Payload} {error : PassError}
    (hfound : ∀ fault, found = .error (.stopped fault) → fault = .fault .tooLong)
    (h : respond room found = .error (.stopped error)) : error = .fault .tooLong := by
  rw [respond] at h
  split at h
  · exact hfound error h
  · cases h
    rfl

section
variable {room : Room} {now : Option Instant} {args : Option Json} {request : Request}

theorem replyIn_of_givenBy (h : Request.GivenBy args request) :
    replyIn room now args = respond room (perform room now request) := by
  rw [replyIn, answer, ofJson_eq_valid.2 h]

theorem replyIn_of_not_givenBy (h : ∀ request, ¬ Request.GivenBy args request) :
    ∃ issues, Request.ofJson args = .invalid issues ∧
      replyIn room now args = respond room (.error (.invalidArguments issues)) := by
  rw [replyIn, answer]
  cases hread : Request.ofJson args with
  | invalid issues => exact ⟨issues, rfl, rfl⟩
  | valid request => exact absurd (ofJson_eq_valid.1 hread) (h request)

theorem perform_eq_stopped {error : PassError} (h : perform room now request = .error (.stopped error)) :
    error = .fault .tooLong := by
  have hbuiltin := Registry.standard_builtin.unbroken
  by_cases haction : request.action = .render
  · rw [perform, haction] at h
    dsimp only at h
    obtain ⟨refusal, hrefused⟩ | ⟨source, options, items, haccepted⟩ := refused_or_accepted request
    · cases (renderLayers_of_refused hrefused room now).symm.trans h
      exact (aboutRequest_of_renderRefused hrefused).elim
    · obtain ⟨texts, -, hrender⟩ := exists_texts_in_room hbuiltin source items options now room
      rw [renderLayers_of_accepted haccepted, hrender] at h
      by_cases hfits : room.HoldsPass items texts
      · rw [if_pos hfits] at h
        cases h
      · rw [if_neg hfits] at h
        cases h
        rfl
  · exact (aboutRequest_of_perform haction h).elim

end

/-- The arguments of a request to render a layer in a group. -/
def renderArguments (pattern : String) (options : List (String × Json)) : Json :=
  .record [("action", .string (text "render")), ("pattern", .string (text pattern)),
    ("layers", .array
      [.record [("id", .ofNat 2), ("name", .string (text "Arm.png")), ("type", .string (text "layer")),
          ("parent_id", .ofNat 1)],
        .record [("id", .ofNat 1), ("name", .string (text "Body")), ("type", .string (text "group"))]]),
    ("options", .record options)]

/-- The layers of these arguments. -/
def renderedLayers : List Layer :=
  [Layer.named "Arm.png" .pixels 2 (some 1), Layer.named "Body" .group 1 none]

theorem givenBy_renderArguments (pattern : String) (options : List (String × Json)) {kept : Json}
    (hkept : Shape.record (some (.record options)) kept) :
    Request.GivenBy (some (renderArguments pattern options))
      ⟨.render, some (text pattern), some renderedLayers, none, none, some kept, none⟩ := by
  refine ⟨_, rfl, ⟨_, rfl, .tail _ (.tail _ (.head _))⟩, .given rfl, .given ⟨_, rfl, ?_⟩, .missing, .missing,
    .given hkept, .missing⟩
  refine .cons ⟨_, rfl, ?_⟩ (.cons ⟨_, rfl, ?_⟩ .nil)
  · exact ⟨⟨rfl, by decide +kernel⟩, rfl, ⟨_, rfl, by decide⟩, .given ⟨rfl, by decide +kernel⟩, .missing,
      .missing, .missing, .missing, .missing⟩
  · exact ⟨⟨rfl, by decide +kernel⟩, rfl, ⟨_, rfl, by decide⟩, .missing, .missing, .missing, .missing,
      .missing, .missing⟩

/-- The arguments of a request to name one layer of an image after the image, over and over. -/
def repeatedNameArguments : Json :=
  .record [("action", .string (text "render")), ("pattern", .string repeatedName),
    ("layers", .array [.record [("id", .ofNat 1), ("name", .string (text "a")),
      ("type", .string (text "layer"))]]),
    ("image", .record [("name", .string (List.replicate 92676 (unit 'x')))])]

/-- The request that these arguments make. -/
def repeatedNameRequest : Request :=
  ⟨.render, some repeatedName, some [Layer.named "a" .pixels 1 none], some longNamed, none, none, none⟩

theorem givenBy_repeatedNameArguments :
    Request.GivenBy (some repeatedNameArguments) repeatedNameRequest := by
  refine ⟨_, rfl, ⟨_, rfl, .tail _ (.tail _ (.head _))⟩, .given rfl,
    .given ⟨_, rfl, .cons ⟨_, rfl, ?_⟩ .nil⟩, .given ⟨_, rfl, ?_⟩, .missing, .missing, .missing⟩
  · exact ⟨⟨rfl, by decide +kernel⟩, rfl, ⟨_, rfl, by decide⟩, .missing, .missing, .missing, .missing,
      .missing, .missing⟩
  · exact ⟨.given (.given nofun rfl), .missing, .missing⟩

end NamePattern.Tool
