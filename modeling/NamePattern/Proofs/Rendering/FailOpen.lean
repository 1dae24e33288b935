import Mathlib.Control.Monad.Basic
import NamePattern.Proofs.Evaluation.Fault
import NamePattern.Proofs.Pattern.Account
import NamePattern.Proofs.Rendering.Omission

/-!
Rendering fails open. Unless a custom field breaks, a pattern has a text for every item of a pass: its
literal text, the values of its fields and, for a field that fails, the very units of the pattern that
the call was read from. These are what the pattern would put out if the name of the field were not
known, so a registry may as well leave out a field that always fails.

A field that is too long for the room it has fails like any other. A text of an item is not the value of a
field, though: one that is put together from values that fit can be too long itself, and that stops the
pass.
-/

namespace NamePattern

/-- How the text of some segments for an item comes about in a room from the state of a pass, and the
state after it. A field that fails shows its stretch of the pattern, from its opening through its closing
bracket. -/
inductive Shows (room : Room) (registry : Registry) (source : Text) (item : Item) :
    PassState → List Segment → Text → PassState → Prop
  | done {state} : Shows room registry source item state [] [] state
  | literal {state t rest more next}
      (hrest : Shows room registry source item state rest more next) :
      Shows room registry source item state (.literal t :: rest) (t ++ more) next
  | value {state call g rest value middle more next}
      (hcall : room.evaluateCall registry state item call = (.ok (.ok value), middle))
      (hrest : Shows room registry source item middle rest more next) :
      Shows room registry source item state (.field call g :: rest) (value ++ more) next
  | fallback {state call g rest failure middle more next}
      (hcall : room.evaluateCall registry state item call = (.ok (.error failure), middle))
      (hrest : Shows room registry source item middle rest more next) :
      Shows room registry source item state (.field call g :: rest)
        (source.extract g.start (g.stop + 1) ++ more) next

/-- How the texts of some segments for the items of a pass come about in a room, in their order. -/
inductive ShowsAll (room : Room) (registry : Registry) (source : Text) (segments : List Segment) :
    PassState → List Item → List Text → Prop
  | done {state} : ShowsAll room registry source segments state [] []
  | item {state item items t next texts}
      (hitem : Shows room registry source item state segments t next)
      (hitems : ShowsAll room registry source segments next items texts) :
      ShowsAll room registry source segments state (item :: items) (t :: texts)

/-! ### Every item has a text -/

/-- A field of a pattern has a name that the registry knows, and its group stands in the pattern as it
is written. -/
structure Placed (registry : Registry) (source : Text) (call : Call) (g : Group) : Prop where
  known : registry.knows call.name = true
  written : source.extract g.start (g.stop + 1) = g.written

theorem Group.StandsIn.written_eq {p : Text} {g : Group} (h : g.StandsIn p) :
    p.extract g.start (g.stop + 1) = g.written := by
  have hsource := h.source
  rw [List.extract_eq_take_drop] at hsource ⊢
  have hstop : g.stop + 1 - g.start = (g.stop - (g.start + 1) + 1) + 1 := by
    have := g.start_lt_stop
    omega
  obtain ⟨hlt, hopen⟩ := List.getElem?_eq_some_iff.1 h.opening
  rw [hstop, List.drop_eq_getElem_cons hlt, hopen, List.take_succ_cons, List.take_add_one, hsource,
    List.getElem?_drop]
  have hindex : g.start + 1 + (g.stop - (g.start + 1)) = g.stop := by
    have := g.start_lt_stop
    omega
  rw [hindex, h.closing]
  rfl

theorem placed_of_read {registry : Registry} {source : Text} {call : Call} {g : Group}
    (h : .field call g ∈ (Pattern.read registry source).segments) :
    Placed registry source call g := by
  obtain ⟨hmem, rfl, hknown⟩ := (Segment.field_mem_foldr registry.knows).1 h
  exact ⟨hknown, (Piece.mem_groups_scan.1 hmem).written_eq⟩

/-- The group of a field is literal text where its name is not known. -/
theorem segments_of_unknown {registry other : Registry} {source : Text} {call : Call} {g : Group}
    (h : .field call g ∈ (Pattern.read registry source).segments)
    (hunknown : other.knows call.name = false) :
    (Pattern.read other g.written).segments = [.literal g.written] := by
  obtain ⟨hmem, rfl, -⟩ := (Segment.field_mem_foldr registry.knows).1 h
  obtain ⟨rest, after, -, hd, hend⟩ :=
    Piece.outside_of_mem source 0 source (outside_start source) g hmem
  rw [eq_of_groupEnd hend] at hd
  have hsegments := segmentsFrom_bracketed other.knows 0 (head_ne_of_append hd)
    (enclosed_of_groupEnd 0 rest g.source after hend)
  rw [Segment.prependPiece_unknown (g := ⟨g.source, 0⟩) hunknown] at hsegments
  exact hsegments

section
variable {registry : Registry} (unbroken : registry.Unbroken) (room : Room) (item : Item)
include unbroken

theorem Room.evaluateCall_of_knows (state : PassState) {call : Call}
    (h : registry.knows call.name = true) :
    ∃ result next, room.evaluateCall registry state item call = (.ok result, next) := by
  obtain ⟨field, hfind⟩ := Option.isSome_iff_exists.1 h
  have hdigits : field = .builtin .number → call.name.isNumeral = true := by
    rintro rfl
    exact Registry.goesBy_of_find hfind
  obtain ⟨result, hresult⟩ :=
    unbroken.evaluate room state item (Registry.find_mem hfind) hdigits call.args
  rw [evaluateCall, hfind]
  exact ⟨result, _, Prod.ext hresult rfl⟩

omit room in
theorem Call.evaluate_of_knows (state : PassState) {call : Call}
    (h : registry.knows call.name = true) :
    ∃ result next, call.evaluate registry state item = (.ok result, next) :=
  Room.evaluateCall_of_knows unbroken .unbounded item state h

theorem shows_renderAll {source : Text} (segments : List Segment)
    (hplaced : ∀ call g, .field call g ∈ segments → Placed registry source call g)
    (state : PassState) : ∃ t next,
      room.renderAll registry item state segments = (.ok t, next) ∧
        Shows room registry source item state segments t next := by
  induction segments generalizing state with
  | nil => exact ⟨[], state, rfl, .done⟩
  | cons segment rest ih =>
    have hrest := ih fun call g h => hplaced call g (List.mem_cons_of_mem _ h)
    cases segment with
    | literal t =>
      obtain ⟨more, next, hmore, hshows⟩ := hrest state
      rw [Room.renderAll_literal, hmore]
      exact ⟨t ++ more, next, rfl, .literal hshows⟩
    | field call g =>
      have hfield := hplaced call g List.mem_cons_self
      obtain ⟨result, middle, hcall⟩ := Room.evaluateCall_of_knows unbroken room item state hfield.known
      obtain ⟨more, next, hmore, hshows⟩ := hrest middle
      rw [Room.renderAll_field, hcall]
      cases result with
      | ok value =>
        dsimp only
        rw [hmore]
        exact ⟨value ++ more, next, rfl, .value hcall hshows⟩
      | error failure =>
        dsimp only
        rw [hmore, ← hfield.written]
        exact ⟨_, next, rfl, .fallback hcall hshows⟩

omit item in
theorem showsAll_run {source : Text} {pattern : Pattern}
    (hplaced : ∀ call g, .field call g ∈ pattern.segments → Placed registry source call g)
    (items : List Item) (state : PassState) : ∃ texts,
      (runAll (fun state item => room.renderAll registry item state pattern.segments) state items).1
        = .ok texts ∧
        ShowsAll room registry source pattern.segments state items texts := by
  induction items generalizing state with
  | nil => exact ⟨[], rfl, .done⟩
  | cons item rest ih =>
    obtain ⟨t, next, ht, hshows⟩ := shows_renderAll unbroken room item pattern.segments hplaced state
    obtain ⟨texts, htexts, hall⟩ := ih next
    rw [runAll_cons, ht]
    dsimp only
    rw [htexts]
    exact ⟨t :: texts, rfl, .item hshows hall⟩

end

theorem ShowsAll.length_eq {room : Room} {registry : Registry} {source : Text}
    {segments : List Segment} {state : PassState} {items : List Item} {texts : List Text}
    (h : ShowsAll room registry source segments state items texts) : texts.length = items.length := by
  induction h with
  | done => rfl
  | item _ _ ih => rw [List.length_cons, List.length_cons, ih]

section
variable {registry : Registry} (unbroken : registry.Unbroken) (source : Text) (items : List Item)
  (options : RenderOptions) (now : Option Instant)
include unbroken

/-- Every item of a pass has a text, and the pass gives the texts unless it lacks room. -/
theorem exists_texts_in_room (room : Room) :
    ∃ texts, ShowsAll room registry source (Pattern.read registry source).segments
        (PassState.start items options now) items texts ∧
      room.render registry (Pattern.read registry source) items options now
        = if room.HoldsPass items texts then .ok texts else .error .tooLong := by
  obtain ⟨texts, htexts, hall⟩ := showsAll_run unbroken room (fun call g h => placed_of_read h) items
    (PassState.start items options now)
  exact ⟨texts, hall, Room.render_of_runAll htexts⟩

/-- Where there is room for any text, a pass gives one for each item. -/
theorem exists_texts :
    ∃ texts, (Pattern.read registry source).render registry items options now = .ok texts ∧
      texts.length = items.length := by
  obtain ⟨texts, hall, hrender⟩ := exists_texts_in_room unbroken source items options now .unbounded
  exact ⟨texts, hrender.trans (if_pos (Room.holdsPass_unbounded items texts)), hall.length_eq⟩

end

/-- A custom field that goes by any name that begins with its own, and gives its first argument value
back. -/
def CustomField.echo : CustomField where
  kind := .tags
  name := text "echo"
  minArgs := 1
  maxArgs := none
  examples := []
  answer := ⟨fun state _ _ values => (.value (values.headD []), state)⟩
  goesBy := fun name => (text "echo").isPrefixOf name

/-- A custom field that always goes out of range. -/
def CustomField.overlong : CustomField where
  kind := .attributes
  name := text "overlong"
  minArgs := 0
  maxArgs := none
  examples := []
  answer := ⟨fun state _ _ _ => (.outOfRange (text "Invalid string length"), state)⟩

/-- A field that is called over and over shows its value as often. -/
theorem renderAll_replicate {room : Room} {registry : Registry} {source : Text}
    (hd : source.head? ≠ some openBracket) (henclosed : Enclosed 0 source)
    (hknown : registry.knows (Call.ofSource source).name = true) {item : Item} {state : PassState}
    {value : Text}
    (hcall : room.evaluateCall registry state item (Call.ofSource source) = (.ok (.ok value), state))
    (count start : Nat) :
    room.renderAll registry item state
        (segmentsFrom registry.knows start (List.replicate count (bracketed source)).flatten)
      = (.ok (List.replicate count value).flatten, state) := by
  induction count generalizing start with
  | zero => rw [List.replicate_zero, List.flatten_nil, segmentsFrom_nil]; rfl
  | succ count ih =>
    rw [List.replicate_succ, List.flatten_cons, segmentsFrom_call _ _ hd henclosed hknown,
      Room.renderAll_field, hcall]
    dsimp only
    rw [ih]
    rfl

/-- Called with its argument, the image name is the name as it is, if there is room for it. -/
theorem evaluateCall_imageName {room : Room} {item : Item} {name : Text}
    (hitem : item.image.name = some name) (hname : room.holds name.length = true) (state : PassState) :
    room.evaluateCall .builtin state item (Call.ofSource (text "image name, %e"))
      = (.ok (.ok name), state) := by
  have hcall : (Call.ofSource (text "image name, %e")).name = text "image name" := by decide +kernel
  have hfind : Registry.builtin.find? (text "image name") = some (.builtin .imageName) := rfl
  have hkeep : parseArguments ImageName.spec ImageName.readKeep
      (Call.ofSource (text "image name, %e")).args = .ok true := by
    decide +kernel
  rw [Room.evaluateCall, hcall, hfind]
  dsimp only
  rw [Room.evaluate_plain _ _ _ _ _ (by decide) (by decide), FieldKind.evaluatePlain,
    ImageName.evaluate, evaluateBy, hkeep]
  simp only [ImageName.value, PassState.view, hitem, Option.getD_some, if_true, Room.fitted, Except.map,
    Room.fit, hname]

/-- There is room for the name of an image, but not for as many copies of it as there are fields. -/
theorem render_imageName_replicate {room : Room} {item : Item} {name : Text}
    (hitem : item.image.name = some name) (hname : room.holds name.length = true) {count : Nat}
    (hlong : room.holds (count * name.length) = false) (options : RenderOptions)
    (now : Option Instant) :
    room.render .builtin
        (.read .builtin (List.replicate count (text "[image name, %e]")).flatten) [item] options now
      = .error .tooLong := by
  have hbracketed : bracketed (text "image name, %e") = text "[image name, %e]" := by decide
  have henclosed : Enclosed 0 (text "image name, %e") :=
    enclosed_of_groupEnd 0 (text "image name, %e]") _ [] (by decide +kernel)
  have hknown : Registry.builtin.knows (Call.ofSource (text "image name, %e")).name = true := by
    decide +kernel
  have htext := renderAll_replicate (by decide) henclosed hknown
    (evaluateCall_imageName hitem hname (.start [item] options now)) count 0
  rw [hbracketed, ← segments_ofText] at htext
  have hrun : (runAll (fun state item => room.renderAll .builtin item state
      (Pattern.read .builtin (List.replicate count (text "[image name, %e]")).flatten).segments)
      (.start [item] options now) [item]).1 = .ok [(List.replicate count name).flatten] := by
    rw [runAll_cons, Pattern.read, htext]
    rfl
  rw [Room.render_of_runAll hrun]
  refine if_neg fun hfits => ?_
  have hlength := hfits.2 _ List.mem_cons_self
  rw [List.length_flatten, List.map_replicate, List.sum_replicate_nat, hlong] at hlength
  cases hlength

/-- An image with a name of nearly a hundred thousand units. -/
def longNamed : ImageInfo := { name := some (List.replicate 92676 (unit 'x')) }

/-- A pattern that shows the name of an image nearly six thousand times. -/
def repeatedName : Text := (List.replicate 5793 (text "[image name, %e]")).flatten

/-- On the program's host there is room for that name, but not for that pattern's text. -/
theorem render_repeatedName {item : Item} (hitem : item.image = longNamed) (options : RenderOptions)
    (now : Option Instant) :
    Room.host.render .builtin (.read .builtin repeatedName) [item] options now = .error .tooLong := by
  have hname : item.image.name = some (List.replicate 92676 (unit 'x')) := by rw [hitem]; rfl
  refine render_imageName_replicate hname ?_ ?_ options now
  · rw [List.length_replicate]
    decide
  · rw [List.length_replicate]
    decide

end NamePattern
