import NamePattern.Proofs.Numbering.Law

/-!
Scopes are kept apart. Whatever stands in the names of groups, quotes and zero units included, the key of
a counter is read in one way only, as digits and the path of a scope or the mark of the scope that all
items share. So no two counters share a key, and the total of a scope counts the items with its path.
-/

namespace NamePattern

/-- Keys of counters are equal just if their digits and their scopes are. At any time of a pass, the total
of the scope of an item is the number of items with the same path, and the total of the scope that all
items share is the number of all items. -/
theorem keys_and_totals_tell_scopes_apart :
    (∀ a b : NumberKey, a.digits.all isDigit = true → b.digits.all isDigit = true →
      (a.toText = b.toText ↔ a = b)) ∧
    ∀ (items : List Item) (options : RenderOptions) (now : Option Instant)
      (operations : List Operation),
      let state := stateAfter .builtin (.start items options now) operations
      (∀ item, state.scopeTotal (scopeKey item) = items.countP (·.path = item.path)) ∧
      state.scopeTotal globalScope = items.length := by
  refine ⟨fun a b ha hb => ⟨NumberKey.toText_inj ha hb, fun h => by rw [h]⟩, ?_⟩
  intro items options now operations state
  have hscopes : state.scopes = items.map scopeKey :=
    ((Numbered.start items options now).run operations).scopes
  refine ⟨fun item => ?_, ?_⟩
  · exact NumberKey.scopeTotal_eq_total hscopes ⟨[], some item.path⟩
  · exact NumberKey.scopeTotal_eq_total hscopes ⟨[], none⟩

/-- A name that looks like two quoted ones, or like the mark of the shared scope, makes another key. The
totals are the same after a number has been taken. -/
theorem quotes_in_names_make_other_keys :
    let quoted := Item.within [text "a\",\"b"]
    let nested := Item.within [text "a", text "b"]
    let starred := Item.within [text "*"]
    let key (path : Option (List Text)) : NumberKey := ⟨text "01", path⟩
    let state := stateAfter .builtin (.start [quoted, nested, starred, nested] {} none)
      [.render (.read .builtin (text "[01, %n][01]")) nested]
    (key (some quoted.path)).toText ≠ (key (some nested.path)).toText ∧
      (key (some starred.path)).toText ≠ (key none).toText ∧
      state.scopeTotal (scopeKey nested) = 2 ∧ state.scopeTotal globalScope = 4 := by
  intro quoted nested starred key state
  obtain ⟨hkeys, htotals⟩ := keys_and_totals_tell_scopes_apart
  have hdigits : (text "01").all isDigit = true := by decide
  obtain ⟨hpath, hall⟩ := htotals [quoted, nested, starred, nested] {} none
    [.render (.read .builtin (text "[01, %n][01]")) nested]
  refine ⟨?_, ?_, (hpath nested).trans (by decide), hall⟩
  · exact fun h => absurd ((hkeys _ _ hdigits hdigits).1 h) (by decide)
  · exact fun h => absurd ((hkeys _ _ hdigits hdigits).1 h) (by decide)

end NamePattern
