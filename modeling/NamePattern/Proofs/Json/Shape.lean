import Mathlib.Data.List.Forall2
import Mathlib.Data.List.Nodup
import NamePattern.Json.Checked

/-!
What readers accept, told without reading. A shape relates a value, or the lack of one, to what it stands
for. Each reader has a shape, and it gives a result just when the value has that shape, wherever in a
larger value it stands.
-/

namespace NamePattern

/-- Which results a value stands for, where the value may be missing. -/
abbrev Shape (α : Type) := Option Json → α → Prop

namespace Shape

/-- A text. -/
def ofText : Shape Text := fun value t => value = some (.string t)

/-- A text that is not empty. -/
def nonemptyText : Shape Text := fun value t => value = some (.string t) ∧ t ≠ []

/-- A truth value. -/
def boolean : Shape Bool := fun value b => value = some (.bool b)

/-- A whole number. -/
def integer : Shape Binary64 := fun value x => value = some (.number x) ∧ x.isInteger = true

/-- A whole number that is not negative. -/
def natural : Shape Binary64 := fun value x =>
  value = some (.number x) ∧ x.isInteger = true ∧ x.isNegative = false

/-- One of some listed texts, for what it stands for. -/
def listed {α : Type} (options : List (Text × α)) : Shape α := fun value a =>
  ∃ t, value = some (.string t) ∧ (t, a) ∈ options

/-- An array whose items each have a shape. -/
def array {α : Type} (shape : Shape α) : Shape (List α) := fun value as =>
  ∃ items, value = some (.array items) ∧ List.Forall₂ (fun item a => shape (some item) a) items as

/-- An object, whose keys make up what it stands for. -/
def object {α : Type} (fields : Json → α → Prop) : Shape α := fun value a =>
  ∃ entries, value = some (.object entries) ∧ fields (.object entries) a

/-- An object with any keys and values, kept without the key `__proto__`. -/
def record : Shape Json := fun value a =>
  ∃ entries, value = some (.object entries) ∧
    a = .object (entries.filter fun entry => entry.1 ≠ text "__proto__")

/-- A value that may be missing. -/
inductive Optional {α : Type} (shape : Shape α) : Shape (Option α)
  | missing : Optional shape none none
  | given {value a} (h : shape (some value) a) : Optional shape (some value) (some a)

/-- A value with a default for a missing one. -/
inductive Defaulted {α : Type} (default : α) (shape : Shape α) : Shape α
  | missing : Defaulted default shape none default
  | given {value a} (h : shape (some value) a) : Defaulted default shape (some value) a

/-- A value that may be null. -/
inductive Nullable {α : Type} (shape : Shape α) : Shape (Option α)
  | null : Nullable shape (some .null) none
  | given {value a} (nonnull : value ≠ some .null) (h : shape value a) :
      Nullable shape value (some a)

end Shape

/-- A reader gives a result just when a value has a shape. -/
def Reader.Reads {α : Type} (read : Reader α) (shape : Shape α) : Prop :=
  ∀ path value a, read path value = .valid a ↔ shape value a

namespace Checked
variable {α β : Type}

theorem seq_eq_valid {f : Checked (α → β)} {a : Checked α} {b : β} :
    f <*> a = .valid b ↔ ∃ g, f = .valid g ∧ ∃ x, a = .valid x ∧ g x = b := by
  cases f <;> cases a <;> simp [Seq.seq, seq]

theorem map_eq_valid {f : α → β} {a : Checked α} {b : β} :
    f <$> a = .valid b ↔ ∃ x, a = .valid x ∧ f x = b := by
  cases a <;> simp [Functor.map, seq]

end Checked

namespace Reader
variable {α : Type}

theorem reads_string : string.Reads Shape.ofText := by
  intro path value t
  rcases value with _ | ⟨_ | _ | _ | _ | _ | _⟩ <;> simp [string, fail, Shape.ofText]

theorem reads_nonemptyString : nonemptyString.Reads Shape.nonemptyText := by
  intro path value t
  have htext := reads_string path value
  rw [nonemptyString, Shape.nonemptyText]
  cases hread : string path value with
  | invalid issues =>
    rw [hread] at htext
    have hnone : value ≠ some (.string t) := fun h => by cases (htext t).2 h
    simp [hnone]
  | valid s =>
    obtain rfl : value = some (.string s) := (htext s).1 hread
    cases s with
    | nil => simp +contextual [fail, eq_comm]
    | cons u rest => simp +contextual [eq_comm]

theorem reads_boolean : boolean.Reads Shape.boolean := by
  intro path value b
  rcases value with _ | ⟨_ | _ | _ | _ | _ | _⟩ <;> simp [boolean, fail, Shape.boolean]

/-- A reader of numbers asks for a number and for all of its conditions. -/
theorem number_eq_valid (conditions : List ((Binary64 → Bool) × IssueCause)) (path : List PathStep)
    (value : Option Json) (x : Binary64) :
    number conditions path value = .valid x ↔
      value = some (.number x) ∧ ∀ condition ∈ conditions, condition.1 x = true := by
  rcases value with _ | ⟨_ | _ | y | _ | _ | _⟩
  case some.number =>
    rw [number]
    cases hfailed : conditions.filter fun condition => !condition.1 y with
    | nil =>
      have hall : ∀ condition ∈ conditions, condition.1 y = true := by
        simpa using List.filter_eq_nil_iff.1 hfailed
      constructor
      · rintro ⟨⟩
        exact ⟨rfl, hall⟩
      · rintro ⟨⟨⟩, -⟩
        rfl
    | cons first rest =>
      constructor
      · rintro ⟨⟩
      · rintro ⟨⟨⟩, hall⟩
        obtain ⟨hfirst, hnot⟩ := List.mem_filter.1 (hfailed ▸ List.mem_cons_self (l := rest))
        rw [hall first hfirst] at hnot
        cases hnot
  all_goals simp [number, fail]

theorem reads_integer : integer.Reads Shape.integer := by
  intro path value x
  rw [integer, number_eq_valid, Shape.integer]
  simp [whole]

theorem reads_natural : natural.Reads Shape.natural := by
  intro path value x
  rw [natural, number_eq_valid, Shape.natural]
  simp [whole, notNegative]

/-- The first option of a text is its only one. -/
theorem reads_listed {options : List (Text × α)} (distinct : (options.map Prod.fst).Nodup) :
    (listed options).Reads (Shape.listed options) := by
  intro path value a
  rcases value with _ | ⟨_ | _ | _ | t | _ | _⟩
  case some.string =>
    rw [listed]
    cases hfind : options.find? fun option => option.1 = t with
    | none =>
      have hnone : ∀ a, (t, a) ∉ options := by
        intro a hmem
        exact List.find?_eq_none.1 hfind _ hmem (decide_eq_true rfl)
      simp [fail, Shape.listed, hnone]
    | some option =>
      have hmem := List.mem_of_find?_eq_some hfind
      obtain rfl : option.1 = t := by simpa using List.find?_some hfind
      constructor
      · rintro ⟨⟩
        exact ⟨_, rfl, hmem⟩
      · rintro ⟨_, ⟨⟩, hother⟩
        rw [List.inj_on_of_nodup_map distinct hmem hother rfl]
  all_goals simp [listed, fail, Shape.listed]

theorem reads_optional {read : Reader α} {shape : Shape α} (h : read.Reads shape) :
    (optional read).Reads (Shape.Optional shape) := by
  intro path value a
  cases value with
  | none =>
    constructor
    · rintro ⟨⟩
      exact .missing
    · rintro ⟨⟩
      rfl
  | some value =>
    rw [optional, Checked.map_eq_valid]
    constructor
    · rintro ⟨x, hx, rfl⟩
      exact .given ((h path _ x).1 hx)
    · rintro (_ | ⟨hx⟩)
      exact ⟨_, (h path _ _).2 hx, rfl⟩

theorem reads_withDefault {default : α} {read : Reader α} {shape : Shape α} (h : read.Reads shape) :
    (withDefault default read).Reads (Shape.Defaulted default shape) := by
  intro path value a
  cases value with
  | none =>
    constructor
    · rintro ⟨⟩
      exact .missing
    · rintro ⟨⟩
      rfl
  | some value =>
    rw [withDefault, h path]
    exact ⟨.given, fun | .given hx => hx⟩

theorem reads_nullable {read : Reader α} {shape : Shape α} (h : read.Reads shape) :
    (nullable read).Reads (Shape.Nullable shape) := by
  intro path value a
  by_cases hnull : value = some .null
  · subst hnull
    constructor
    · rintro ⟨⟩
      exact .null
    · rintro (_ | ⟨hne, -⟩)
      · rfl
      · exact absurd rfl hne
  · have hread : nullable read path value = some <$> read path value := by
      rw [nullable]
      simpa using hnull
    rw [hread, Checked.map_eq_valid]
    constructor
    · rintro ⟨x, hx, rfl⟩
      exact .given hnull ((h path _ x).1 hx)
    · rintro (_ | ⟨-, hx⟩)
      · exact absurd rfl hnull
      · exact ⟨_, (h path _ _).2 hx, rfl⟩

theorem itemsFrom_eq_valid {read : Reader α} {shape : Shape α} (h : read.Reads shape)
    (path : List PathStep) (i : Nat) (items : List Json) (as : List α) :
    itemsFrom read path i items = .valid as ↔
      List.Forall₂ (fun item a => shape (some item) a) items as := by
  induction items generalizing i as with
  | nil =>
    rw [itemsFrom, List.forall₂_nil_left_iff]
    exact ⟨fun | rfl => rfl, fun | rfl => rfl⟩
  | cons item rest ih =>
    rw [itemsFrom, Checked.seq_eq_valid, List.forall₂_cons_left_iff]
    constructor
    · rintro ⟨g, hg, bs, hbs, rfl⟩
      obtain ⟨b, hb, rfl⟩ := Checked.map_eq_valid.1 hg
      exact ⟨b, bs, (h _ _ b).1 hb, (ih _ bs).1 hbs, rfl⟩
    · rintro ⟨b, bs, hb, hbs, rfl⟩
      exact ⟨_, Checked.map_eq_valid.2 ⟨b, (h _ _ b).2 hb, rfl⟩, bs, (ih _ bs).2 hbs, rfl⟩

theorem reads_array {read : Reader α} {shape : Shape α} (h : read.Reads shape) :
    (array read).Reads (Shape.array shape) := by
  intro path value as
  rcases value with _ | ⟨_ | _ | _ | _ | items | _⟩
  case some.array =>
    rw [array, itemsFrom_eq_valid h]
    simp [Shape.array]
  all_goals simp [array, fail, Shape.array]

theorem reads_record : record.Reads Shape.record := by
  intro path value a
  rcases value with _ | ⟨_ | _ | _ | _ | _ | entries⟩ <;>
    simp [record, fail, Shape.record, eq_comm]

theorem reads_object {read : List PathStep → Json → Checked α} {fields : Json → α → Prop}
    (h : ∀ path entries a, read path (.object entries) = .valid a ↔ fields (.object entries) a) :
    (object read).Reads (Shape.object fields) := by
  intro path value a
  rcases value with _ | ⟨_ | _ | _ | _ | _ | entries⟩
  case some.object =>
    rw [object, h]
    simp [Shape.object]
  all_goals simp [object, fail, Shape.object]

theorem field_eq_valid {read : Reader α} {shape : Shape α} (h : read.Reads shape) {object : Json}
    {path : List PathStep} {name : String} {a : α} :
    field object path name read = .valid a ↔ shape (object.get? (text name)) a :=
  h _ _ a

/-- Keys are refused unless all of them are known. -/
theorem noOtherKeys_eq_valid {known : List Text} {entries : List (Text × Json)}
    {path : List PathStep} {a : Unit} :
    noOtherKeys known (.object entries) path = .valid a ↔ ∀ entry ∈ entries, entry.1 ∈ known := by
  rw [noOtherKeys]
  cases hother : (entries.map Prod.fst).filter fun key => !known.contains key with
  | nil =>
    have hknown := List.filter_eq_nil_iff.1 hother
    simp only [List.forall_mem_map] at hknown
    simpa using hknown
  | cons key rest =>
    have hkey : key ∈ (entries.map Prod.fst).filter fun key => !known.contains key := by
      rw [hother]
      exact List.mem_cons_self
    obtain ⟨hmem, hunknown⟩ := List.mem_filter.1 hkey
    obtain ⟨entry, hentry, rfl⟩ := List.mem_map.1 hmem
    constructor
    · rintro ⟨⟩
    · intro hall
      simp [hall entry hentry] at hunknown

end Reader

end NamePattern
