import NamePattern.Regex.Search

/-!
Matches come one after the other. An expression hands on to what is left to match only positions that
lie ahead of where it began, in the direction in which it is matched; looking around comes back to where it
began. So a match never ends before it begins, and the search for the next one starts at its end or
behind it.
-/

namespace NamePattern.Regex

/-- A position that is reached from another one by going in a direction within the input. -/
structure Subject.Ahead (s : Subject) (backward : Bool) (i j : Nat) : Prop where
  direction : if backward then j ≤ i else i ≤ j
  within : i ≤ s.input.size → j ≤ s.input.size

namespace Subject
variable {s : Subject} {backward : Bool} {i j k : Nat}

theorem Ahead.refl (s : Subject) (backward : Bool) (i : Nat) : s.Ahead backward i i :=
  ⟨by cases backward <;> exact Nat.le_refl i, id⟩

theorem Ahead.trans (h : s.Ahead backward i j) (h' : s.Ahead backward j k) :
    s.Ahead backward i k := by
  refine ⟨?_, fun hi => h'.within (h.within hi)⟩
  have hij := h.direction
  have hjk := h'.direction
  cases backward with
  | false => exact Nat.le_trans hij hjk
  | true => exact Nat.le_trans hjk hij

theorem next_bounds {d : Nat} (h : s.next? i = some (d, j)) : i < j ∧ j ≤ s.input.size := by
  have hlt : ∀ {n : Nat} {u : CodeUnit}, s.input[n]? = some u → n < s.input.size :=
    fun hu => (Array.getElem?_eq_some_iff.1 hu).1
  have hsnd : ∀ {found : Nat × Nat}, some found = some (d, j) → found.2 = j :=
    fun hfound => congrArg Prod.snd (Option.some.inj hfound)
  rw [next?] at h
  split at h
  · cases h
  · next u hu =>
    have := hlt hu
    split at h
    · next v hv =>
      have := hlt hv
      split at h
      · obtain rfl := hsnd h
        omega
      · obtain rfl := hsnd h
        omega
    · obtain rfl := hsnd h
      omega

theorem previous_lt {d : Nat} (h : s.previous? i = some (d, j)) : j < i := by
  have hsnd : ∀ {found : Nat × Nat}, some found = some (d, j) → found.2 = j :=
    fun hfound => congrArg Prod.snd (Option.some.inj hfound)
  unfold previous? at h
  split at h
  · cases h
  · split at h
    · cases h
    · split at h
      · obtain rfl := hsnd h
        exact Nat.succ_pos 0
      · split at h
        · split at h
          · obtain rfl := hsnd h
            omega
          · obtain rfl := hsnd h
            omega
        · obtain rfl := hsnd h
          omega

theorem read_ahead {d : Nat} (h : s.read? backward i = some (d, j)) : s.Ahead backward i j := by
  cases backward with
  | false =>
    obtain ⟨hlt, hsize⟩ := next_bounds h
    exact ⟨Nat.le_of_lt hlt, fun _ => hsize⟩
  | true =>
    have hlt := previous_lt h
    exact ⟨Nat.le_of_lt hlt, fun hi => Nat.le_trans (Nat.le_of_lt hlt) hi⟩

theorem follow_ahead {characters : List Nat} (h : s.follow? backward characters i = some j) :
    s.Ahead backward i j := by
  induction characters generalizing i with
  | nil => cases h; exact .refl s backward _
  | cons c rest ih =>
    rw [follow?] at h
    obtain ⟨⟨d, next⟩, hread, h⟩ := Option.bind_eq_some_iff.1 h
    dsimp only at h
    split at h
    · exact (read_ahead hread).trans (ih h)
    · cases h

theorem lt_advance (s : Subject) (i : Nat) : i < s.advance i := by
  rw [advance]
  cases hnext : s.next? i with
  | none => exact Nat.lt_succ_self i
  | some found => exact (next_bounds (d := found.1) (j := found.2) hnext).1

end Subject

variable {s : Subject}

/-- A match that succeeds has handed on to its rest a position ahead, from which that succeeds. -/
def HandsOn (s : Subject) (backward : Bool) (c : Cursor) (rest : Rest) (done : Cursor) : Prop :=
  ∃ after, s.Ahead backward c.position after.position ∧ rest after = some done

section
variable {backward : Bool} {c : Cursor} {rest : Rest} {done : Cursor}

theorem handsOn_of_rest (h : rest c = some done) : HandsOn s backward c rest done :=
  ⟨c, .refl s backward c.position, h⟩

theorem handsOn_of_test {test : Bool} (h : (if test then rest c else none) = some done) :
    HandsOn s backward c rest done := by
  split at h
  · exact handsOn_of_rest h
  · cases h

/-- A single character hands on the position beyond it. -/
theorem handsOn_of_read (accept : Nat → Prop) [DecidablePred accept]
    (h : (match s.read? backward c.position with
      | some (d, i) => if accept d then rest { c with position := i } else none
      | none => none) = some done) : HandsOn s backward c rest done := by
  split at h
  · next d i hread =>
    split at h
    · exact ⟨_, Subject.read_ahead hread, h⟩
    · cases h
  · cases h

/-- The rounds of a loop hand on what its body does. -/
theorem handsOn_of_rounds {body : Cursor → Rest → Option Cursor}
    (hbody : ∀ {c rest done}, body c rest = some done → HandsOn s backward c rest done)
    {greedy : Bool} {groups : Nat × Nat} {bound least : Nat} {most : Option Nat}
    (h : rounds body greedy groups bound least most c rest = some done) :
    HandsOn s backward c rest done := by
  induction bound generalizing least most c with
  | zero => cases h
  | succ bound ih =>
    rw [rounds] at h
    split at h
    · exact handsOn_of_rest h
    · dsimp only at h
      -- a round hands on to the test for an empty one, and that to the rounds after it
      have hround : ∀ {again : Rest}, body (c.forget groups) again = some done →
          (∀ after, again after = some done → HandsOn s backward after rest done) →
          HandsOn s backward c rest done := by
        intro again hagain hnext
        obtain ⟨middle, hahead, hmiddle⟩ := hbody hagain
        obtain ⟨after, hbeyond, hrest⟩ := hnext middle hmiddle
        exact ⟨after, hahead.trans hbeyond, hrest⟩
      have hnext : ∀ after : Cursor,
          (if least = 0 && after.position = c.position then none
            else rounds body greedy groups bound (least - 1) (most.map (· - 1)) after rest)
              = some done → HandsOn s backward after rest done := by
        intro after hafter
        split at hafter
        · cases hafter
        · exact ih hafter
      split at h
      · exact hround h hnext
      · split at h
        · rcases Option.or_eq_some_iff.1 h with h | ⟨-, h⟩
          · exact hround h hnext
          · exact handsOn_of_rest h
        · split at h
          · next hfound => cases h; exact handsOn_of_rest hfound
          · exact hround h hnext

/-- An expression hands on a position ahead of where it began. -/
theorem handsOn_of_run {node : Node} (h : node.run s backward c rest = some done) :
    HandsOn s backward c rest done := by
  induction node generalizing c rest backward done with
  | empty => exact handsOn_of_rest h
  | char p =>
    rw [Node.run] at h
    exact handsOn_of_read (fun d => s.flags.canonical p = s.flags.canonical d) h
  | any =>
    rw [Node.run] at h
    exact handsOn_of_read (fun d => s.flags.dotAll || !isLineEndCharacter d) h
  | oneOf negated items =>
    rw [Node.run] at h
    exact handsOn_of_read (fun d => accepts s.flags negated items d) h
  | cat first second ihfirst ihsecond =>
    rw [Node.run] at h
    cases backward with
    | false =>
      obtain ⟨middle, hahead, hmiddle⟩ := ihfirst h
      obtain ⟨after, hbeyond, hrest⟩ := ihsecond hmiddle
      exact ⟨after, hahead.trans hbeyond, hrest⟩
    | true =>
      obtain ⟨middle, hahead, hmiddle⟩ := ihsecond h
      obtain ⟨after, hbeyond, hrest⟩ := ihfirst hmiddle
      exact ⟨after, hahead.trans hbeyond, hrest⟩
  | alt first second ihfirst ihsecond =>
    rw [Node.run] at h
    split at h
    · next hfirst => cases h; exact ihfirst hfirst
    · exact ihsecond h
  | group index body ih =>
    rw [Node.run] at h
    obtain ⟨after, hahead, hrest⟩ := ih h
    exact ⟨after.capture index c.position after.position, hahead, hrest⟩
  | backref index =>
    rw [Node.run] at h
    split at h
    · exact handsOn_of_rest h
    · split at h
      · next hfollow => exact ⟨_, Subject.follow_ahead hfollow, h⟩
      · cases h
  | lineStart => exact handsOn_of_test h
  | lineEnd => exact handsOn_of_test h
  | boundary negated => exact handsOn_of_test h
  | look behind negated body =>
    rw [Node.run] at h
    split at h
    · next after _ =>
      split at h
      · cases h
      · exact ⟨{ c with spans := after.spans }, .refl s backward c.position, h⟩
    · exact handsOn_of_test h
  | loop body least most greedy groups ih =>
    rw [Node.run] at h
    exact handsOn_of_rounds ih h

end

/-! ### Searching -/

section
variable {regex : Regex} {position : Nat}

theorem bounds_of_matchAt {start : Nat} {after : Cursor}
    (h : regex.matchAt? s position = some (start, after)) :
    start = position ∧ position ≤ after.position ∧
      (position ≤ s.input.size → after.position ≤ s.input.size) := by
  rw [matchAt?] at h
  obtain ⟨found, hrun, hfound⟩ := Option.map_eq_some_iff.1 h
  obtain ⟨last, hahead, hlast⟩ := handsOn_of_run hrun
  cases hlast
  cases hfound
  exact ⟨rfl, hahead.direction, hahead.within⟩

theorem bounds_of_searchFrom {tries start : Nat} {after : Cursor}
    (h : regex.searchFrom? s tries position = some (start, after)) :
    position ≤ start ∧ start ≤ after.position ∧ after.position ≤ s.input.size := by
  induction tries generalizing position with
  | zero => cases h
  | succ tries ih =>
    rw [searchFrom?] at h
    split at h
    · cases h
    · next hsize =>
      split at h
      · next hfound =>
        cases h
        obtain ⟨rfl, hstart, hend⟩ := bounds_of_matchAt hfound
        exact ⟨Nat.le_refl _, hstart, hend (Nat.le_of_not_lt hsize)⟩
      · split at h
        · cases h
        · obtain ⟨hstart, hrest⟩ := ih h
          exact ⟨Nat.le_trans (Nat.le_of_lt (s.lt_advance position)) hstart, hrest⟩

end

/-- Matches in an input, each with the units of its stretch, that begin at or after an index and none
before the end of the one before. -/
inductive Successive (input : Text) : Nat → List Match → Prop
  | done {last} : Successive input last []
  | next {last m rest} (hstart : last ≤ m.index) (hstop : m.stop ≤ input.length)
      (hinput : m.input = input) (hcontent : m.content = input.extract m.index m.stop)
      (hrest : Successive input m.stop rest) : Successive input last (m :: rest)

theorem successive_foundMatch {regex : Regex} {input : Text} {flags : Flags} {last start : Nat}
    {after : Cursor} {rest : List Match} (hlast : last ≤ start) (hstart : start ≤ after.position)
    (hsize : after.position ≤ input.length) (hrest : Successive input after.position rest) :
    Successive input last
      (regex.foundMatch ⟨flags, input.toArray⟩ input start after :: rest) := by
  have hcontent : (regex.foundMatch ⟨flags, input.toArray⟩ input start after).content
      = input.extract start after.position := by
    simp [foundMatch, Subject.slice]
  have hstop : (regex.foundMatch ⟨flags, input.toArray⟩ input start after).stop
      = after.position := by
    have hindex : (regex.foundMatch ⟨flags, input.toArray⟩ input start after).index = start := rfl
    rw [Match.stop, hcontent, hindex, List.extract_eq_take_drop, List.length_take, List.length_drop]
    omega
  exact .next hlast (by rw [hstop]; exact hsize) rfl (by rw [hstop, hcontent]; rfl)
    (by rw [hstop]; exact hrest)

theorem successive_matchesFrom (regex : Regex) (input : Text) {flags : Flags} {last position : Nat}
    (h : last ≤ position) (bound : Nat) :
    Successive input last (regex.matchesFrom ⟨flags, input.toArray⟩ input bound position) := by
  induction bound generalizing last position with
  | zero => exact .done
  | succ bound ih =>
    rw [matchesFrom]
    split
    · exact .done
    · next start after hsearch =>
      obtain ⟨hstart, hend, hsize⟩ := bounds_of_searchFrom hsearch
      refine successive_foundMatch (Nat.le_trans h hstart) hend (by simpa using hsize) (ih ?_)
      -- after an empty match the search goes on one character further
      split
      · next hempty =>
        rw [hempty]
        exact Nat.le_of_lt (Subject.lt_advance _ start)
      · exact Nat.le_refl _

/-- The matches of an expression come one after the other. -/
theorem successive_matches (regex : Regex) (input : Text) :
    Successive input 0 (regex.matches input) :=
  successive_matchesFrom regex input (Nat.le_refl 0) _

end NamePattern.Regex
