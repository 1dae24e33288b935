import NamePattern.Proofs.Pattern.Account
import NamePattern.Proofs.Pattern.Argument

/-!
The scan counts depth and the splitter keeps one flag, yet they agree on the calls of a pattern. A
closed group never ends inside a wrapped argument, so splitting loses nothing of its source; and where
no bracket stands in the name and nothing deeper than depth two, the splitter cuts exactly at the
commas that the scan passes at depth one.

    run of `[`      scan at depth one     splitter
    odd             one deeper            inside
    even            two deeper            as before

The two pair the brackets of a run from different ends, so both inductions carry a second statement,
in which the splitter is one bracket behind the scan.
-/

namespace NamePattern

/-- The places of the commas that are passed at depth one, counted from `start`. -/
def outerCommas (start : Nat) : List Passed → List Nat
  | [] => []
  | x :: rest =>
    if x.unit = comma ∧ x.depth = 1 then start :: outerCommas (start + 1) rest
    else outerCommas (start + 1) rest

/-- The places of the commas between some texts, counted from `start`. -/
def jointsFrom (start : Nat) : List Text → List Nat
  | [] => []
  | [_] => []
  | t :: rest => (start + t.length) :: jointsFrom (start + t.length + 1) rest

/-! ### Nothing is lost -/

/-- An enclosed text ends outside every wrapped argument, if the splitter is inside one only where a
nested stretch is open. -/
theorem rejoins_of_enclosed {n : Nat} {t : Text} (h : Enclosed n t) :
    (∀ wrapped, (wrapped = true → 1 ≤ n) → Rejoins wrapped t) ∧
      (1 ≤ n → Rejoins false (openBracket :: t)) := by
  induction h with
  | done =>
    refine ⟨fun wrapped hw => ?_, fun hn => absurd hn (by decide)⟩
    cases wrapped with
    | true => exact absurd (hw rfl) (by decide)
    | false => exact Rejoins.nil_iff.2 rfl
  | @other n u t hu _ ih =>
    have hd := head_cons_ne (isBracket_eq_false.1 hu).1 t
    refine ⟨fun wrapped hw => (ih.1 wrapped hw).other hu, fun hn => ?_⟩
    exact .opened hd ((ih.1 true fun _ => hn).other hu)
  | openFirst _ ih =>
    refine ⟨fun wrapped hw => ?_, fun hn => absurd hn (by decide)⟩
    cases wrapped with
    | true => exact absurd (hw rfl) (by decide)
    | false => exact ih.2 (Nat.le_refl 1)
  | openPair _ ih =>
    exact ⟨fun wrapped hw => (ih.1 wrapped hw).doubled isBracket_openBracket,
      fun hn => (ih.2 hn).doubled isBracket_openBracket⟩
  | openSingle hd _ ih =>
    refine ⟨fun wrapped _ => .opened hd (ih.1 true fun _ => by omega), fun _ => ?_⟩
    exact (ih.1 false fun hw => by cases hw).doubled isBracket_openBracket
  | closePair _ ih =>
    refine ⟨fun wrapped hw => (ih.1 wrapped hw).doubled isBracket_closeBracket, fun hn => ?_⟩
    exact .opened (head_cons_ne openBracket_ne_closeBracket.symm _) ((ih.1 true fun _ => hn).doubled isBracket_closeBracket)
  | closeSingle hd _ _ ih =>
    have hclosed : ∀ wrapped, Rejoins wrapped (closeBracket :: _) :=
      fun wrapped => .closed hd (ih.1 false fun hw => by cases hw)
    exact ⟨fun wrapped _ => hclosed wrapped,
      fun _ => .opened (head_cons_ne openBracket_ne_closeBracket.symm _) (hclosed true)⟩

/-! ### The same commas -/

theorem jointsFrom_prependToFirst (start : Nat) (t : Text) (args : List Text) :
    jointsFrom start (prependToFirst t args) = jointsFrom (start + t.length) args := by
  rcases args with _ | ⟨first, _ | ⟨second, rest⟩⟩
  · rfl
  · rfl
  · simp only [prependToFirst, jointsFrom, List.length_append, Nat.add_assoc]

theorem jointsFrom_cons {args : List Text} (h : args ≠ []) (start : Nat) (t : Text) :
    jointsFrom start (t :: args) = (start + t.length) :: jointsFrom (start + t.length + 1) args := by
  cases args with
  | nil => exact absurd rfl h
  | cons first rest => rfl

theorem outerCommas_comma (start : Nat) (second : Bool) (rest : List Passed) :
    outerCommas start (⟨comma, 1, second⟩ :: rest) = start :: outerCommas (start + 1) rest := by
  simp [outerCommas]

theorem outerCommas_deep (start : Nat) {x : Passed} (h : x.depth ≠ 1) (rest : List Passed) :
    outerCommas start (x :: rest) = outerCommas (start + 1) rest := by
  simp [outerCommas, h]

theorem outerCommas_other (start : Nat) {x : Passed} (h : x.unit ≠ comma) (rest : List Passed) :
    outerCommas start (x :: rest) = outerCommas (start + 1) rest := by
  simp [outerCommas, h]

theorem outerCommas_bracket (start : Nat) {u : CodeUnit} (hu : isBracket u = true) (depth : Nat)
    (second : Bool) (rest : List Passed) :
    outerCommas start (⟨u, depth, second⟩ :: rest) = outerCommas (start + 1) rest :=
  outerCommas_other start (bracket_ne_comma hu) rest

theorem joints_prepend {wrapped inner : Bool} {u : CodeUnit} {t : Text}
    (hsplit : argumentsFrom wrapped (u :: t) = prependToFirst [u] (argumentsFrom inner t))
    (start : Nat) :
    jointsFrom start (argumentsFrom wrapped (u :: t))
      = jointsFrom (start + 1) (argumentsFrom inner t) := by
  rw [hsplit, jointsFrom_prependToFirst]
  rfl

theorem joints_doubled (wrapped : Bool) {u : CodeUnit} (hu : isBracket u = true) (t : Text)
    (start : Nat) :
    jointsFrom start (argumentsFrom wrapped (u :: u :: t))
      = jointsFrom (start + 2) (argumentsFrom wrapped t) := by
  rw [argumentsFrom_doubled wrapped hu, jointsFrom_prependToFirst]
  rfl

/-- Where the splitter opens an argument one bracket behind the scan. -/
theorem joints_behind {t : Text} (hd : t.head? ≠ some openBracket) (start : Nat) :
    jointsFrom start (argumentsFrom false (openBracket :: t))
      = jointsFrom (start + 1) (argumentsFrom true t) :=
  joints_prepend (argumentsFrom_open false hd) start

/-- In an enclosed text that stays at depth two, the splitter is inside a wrapped argument exactly at
depth two. -/
theorem joints_of_enclosed {n : Nat} {t : Text} (h : Enclosed n t) : n ≤ 1 →
    (∀ x ∈ passFrom (n + 1) t, x.depth ≤ 2) →
      (∀ start, jointsFrom start (argumentsFrom (n == 1) t) = outerCommas start (passFrom (n + 1) t)) ∧
        (n = 1 → ∀ start, jointsFrom start (argumentsFrom false (openBracket :: t))
          = outerCommas (start + 1) (passFrom (n + 1) t)) := by
  induction h with
  | done => exact fun _ _ => ⟨fun start => rfl, fun hn => by cases hn⟩
  | @other n u t hu ht ih =>
    intro hn hdepth
    rw [passFrom_other hu] at hdepth ⊢
    obtain ⟨hrest, -⟩ := ih hn (List.forall_mem_cons.1 hdepth).2
    have hfirst : ∀ start, jointsFrom start (argumentsFrom (n == 1) (u :: t))
        = outerCommas start (⟨u, n + 1, false⟩ :: passFrom (n + 1) t) := by
      intro start
      by_cases hc : u = comma
      · subst hc
        obtain rfl | rfl : n = 0 ∨ n = 1 := by omega
        · have hne := ((rejoins_of_enclosed ht).1 false fun hw => by cases hw).ne_nil
          have hzero : (0 == 1) = false := rfl
          rw [hzero, argumentsFrom_comma, jointsFrom_cons hne, outerCommas_comma]
          exact congrArg (start :: ·) (hrest (start + 1))
        · rw [outerCommas_deep start (by simp)]
          exact (joints_prepend (argumentsFrom_comma_wrapped t) start).trans (hrest (start + 1))
      · rw [outerCommas_other start hc, joints_prepend (argumentsFrom_other _ hu hc t)]
        exact hrest (start + 1)
    refine ⟨hfirst, ?_⟩
    rintro rfl start
    exact (joints_behind (head_cons_ne (isBracket_eq_false.1 hu).1 t) start).trans (hfirst (start + 1))
  | @openFirst t _ ih =>
    intro _ hdepth
    rw [passFrom_single fun _ _ => rfl, depthAfter_openBracket] at hdepth ⊢
    obtain ⟨-, hbehind⟩ := ih (Nat.le_refl 1) (List.forall_mem_cons.1 hdepth).2
    refine ⟨fun start => ?_, fun hn => by cases hn⟩
    rw [outerCommas_bracket start isBracket_openBracket]
    exact hbehind rfl start
  | @openPair n t _ ih =>
    intro hn hdepth
    rw [passFrom_doubled isBracket_openBracket (by omega)] at hdepth ⊢
    obtain ⟨hrest, hbehind⟩ := ih hn (List.forall_mem_cons.1 (List.forall_mem_cons.1 hdepth).2).2
    simp only [outerCommas_bracket _ isBracket_openBracket, joints_doubled _ isBracket_openBracket]
    exact ⟨fun start => hrest (start + 2), fun h1 start => hbehind h1 (start + 2)⟩
  | @openSingle n t hd ht _ =>
    -- the next unit would stand at depth three
    intro _ hdepth
    rw [passFrom_single fun _ h => absurd h hd, depthAfter_openBracket] at hdepth
    cases t with
    | nil => exact absurd rfl ht.ne_nil
    | cons v rest =>
      obtain ⟨more, hmore⟩ := exists_passFrom_cons (n + 2 + 1) v rest
      have hthree := hdepth ⟨v, n + 2 + 1, false⟩ (List.mem_cons_of_mem _ (by rw [hmore]; simp))
      simp only at hthree
      omega
  | @closePair n t _ ih =>
    intro hn hdepth
    rw [passFrom_doubled isBracket_closeBracket (by omega)] at hdepth ⊢
    obtain ⟨hrest, -⟩ := ih hn (List.forall_mem_cons.1 (List.forall_mem_cons.1 hdepth).2).2
    have hfirst : ∀ start, jointsFrom start (argumentsFrom (n + 1 == 1) (closeBracket :: closeBracket :: t))
        = outerCommas (start + 2) (passFrom (n + 1 + 1) t) := by
      intro start
      rw [joints_doubled _ isBracket_closeBracket]
      exact hrest (start + 2)
    simp only [outerCommas_bracket _ isBracket_closeBracket]
    refine ⟨hfirst, fun h1 start => ?_⟩
    rw [h1] at hfirst ⊢
    rw [joints_behind (head_cons_ne openBracket_ne_closeBracket.symm _)]
    exact hfirst (start + 1)
  | @closeSingle n t hd _ _ ih =>
    intro hn hdepth
    obtain rfl : n = 0 := by omega
    rw [passFrom_single fun _ h => absurd h hd, depthAfter_closeBracket] at hdepth ⊢
    obtain ⟨hrest, -⟩ := ih (by omega) (List.forall_mem_cons.1 hdepth).2
    have hfirst : ∀ start, jointsFrom start (argumentsFrom true (closeBracket :: t))
        = outerCommas (start + 1) (passFrom 1 t) := by
      intro start
      rw [joints_prepend (argumentsFrom_close true hd)]
      exact hrest (start + 1)
    simp only [outerCommas_bracket _ isBracket_closeBracket]
    refine ⟨hfirst, fun _ start => ?_⟩
    rw [joints_behind (head_cons_ne openBracket_ne_closeBracket.symm _)]
    exact hfirst (start + 1)

/-! ### From the source of a group to its call -/

theorem Enclosed.of_cons {n : Nat} {u : CodeUnit} {t : Text} (hu : isBracket u = false)
    (h : Enclosed n (u :: t)) : Enclosed n t := by
  cases h with
  | other _ ht => exact ht
  | openFirst | openPair | openSingle => rw [isBracket_openBracket] at hu; cases hu
  | closePair | closeSingle => rw [isBracket_closeBracket] at hu; cases hu

/-- What follows a unit that is no bracket is enclosed as well, at some depth. -/
theorem Enclosed.exists_after {n : Nat} {t : Text} (h : Enclosed n t) {u : CodeUnit}
    (hu : isBracket u = false) : ∀ before after, t = before ++ u :: after → ∃ m, Enclosed m after := by
  have ho := Ne.symm (isBracket_eq_false.1 hu).1
  have hc := Ne.symm (isBracket_eq_false.1 hu).2
  induction h with
  | done => intro before after h; simp at h
  | other _ ht ih =>
    rintro (_ | ⟨v, before⟩) after h
    · cases h
      exact ⟨_, ht⟩
    · exact ih before after (List.cons.inj h).2
  | openFirst _ ih | openSingle _ _ ih =>
    rintro (_ | ⟨v, before⟩) after h
    · exact absurd (List.cons.inj h).1 ho
    · exact ih before after (List.cons.inj h).2
  | closeSingle _ _ _ ih =>
    rintro (_ | ⟨v, before⟩) after h
    · exact absurd (List.cons.inj h).1 hc
    · exact ih before after (List.cons.inj h).2
  | openPair _ ih =>
    rintro (_ | ⟨v, _ | ⟨w, before⟩⟩) after h
    · exact absurd (List.cons.inj h).1 ho
    · exact absurd (List.cons.inj (List.cons.inj h).2).1 ho
    · exact ih before after (List.cons.inj (List.cons.inj h).2).2
  | closePair _ ih =>
    rintro (_ | ⟨v, _ | ⟨w, before⟩⟩) after h
    · exact absurd (List.cons.inj h).1 hc
    · exact absurd (List.cons.inj (List.cons.inj h).2).1 hc
    · exact ih before after (List.cons.inj (List.cons.inj h).2).2

/-- A text without brackets in front of an enclosed one. -/
theorem Enclosed.of_append {n : Nat} {before t : Text} (hb : ∀ u ∈ before, isBracket u = false)
    (h : Enclosed n (before ++ t)) : Enclosed n t := by
  induction before with
  | nil => exact h
  | cons u rest ih =>
    obtain ⟨hu, hrest⟩ := List.forall_mem_cons.1 hb
    exact ih hrest (h.of_cons hu)

theorem passFrom_append_of_plain {before : Text} (hb : ∀ u ∈ before, isBracket u = false) (d : Nat)
    (t : Text) :
    passFrom d (before ++ t) = before.map (fun u => ⟨u, d, false⟩) ++ passFrom d t := by
  induction before with
  | nil => rfl
  | cons u rest ih =>
    obtain ⟨hu, hrest⟩ := List.forall_mem_cons.1 hb
    rw [List.cons_append, passFrom_other hu, ih hrest]
    rfl

theorem outerCommas_append {before : Text} (hb : comma ∉ before) (start d : Nat)
    (units : List Passed) :
    outerCommas start (before.map (fun u => ⟨u, d, false⟩) ++ units)
      = outerCommas (start + before.length) units := by
  induction before generalizing start with
  | nil => rfl
  | cons u rest ih =>
    rw [List.mem_cons, not_or] at hb
    rw [List.map_cons, List.cons_append, outerCommas_other start (Ne.symm hb.1), ih hb.2,
      List.length_cons, Nat.add_right_comm, Nat.add_assoc]

theorem takeWhile_ne_comma {before : Text} (hb : comma ∉ before) (after : Text) :
    (before ++ comma :: after).takeWhile (· ≠ comma) = before := by
  have hall : ∀ u ∈ before, decide (u ≠ comma) = true := by
    intro u hu
    exact decide_eq_true fun h => hb (h ▸ hu)
  rw [List.takeWhile_append_of_pos hall]
  simp

theorem mem_dropWhile {α : Type} {p : α → Bool} {a : α} {l : List α} (ha : a ∈ l) (hp : p a = false) :
    a ∈ l.dropWhile p := by
  rw [← List.takeWhile_append_dropWhile (p := p) (l := l), List.mem_append] at ha
  rcases ha with htake | hdrop
  · have htrue := List.all_eq_true.1 List.all_takeWhile a htake
    rw [hp] at htrue
    cases htrue
  · exact hdrop

/-- Trimming keeps what is no blank. -/
theorem mem_trim {u : CodeUnit} {t : Text} (hu : u ∈ t) (hblank : isBlank u = false) :
    u ∈ t.trim := by
  have hstart : u ∈ t.trimStart := mem_dropWhile hu hblank
  exact List.mem_reverse.2 (mem_dropWhile (List.mem_reverse.2 hstart) hblank)

theorem isBlank_of_bracket {u : CodeUnit} (hu : isBracket u = true) : isBlank u = false := by
  rcases isBracket_eq_true.1 hu with rfl | rfl <;> decide

/-- A text has no bracket if it has none when trimmed. -/
theorem not_bracket_of_trim {t : Text} (h : ∀ u ∈ t.trim, isBracket u = false) :
    ∀ u ∈ t, isBracket u = false := by
  intro u hu
  cases hbracket : isBracket u with
  | false => rfl
  | true => rw [← hbracket, h u (mem_trim hu (isBlank_of_bracket hbracket))]

/-- Every field of a pattern keeps the whole of its source: the text before the first comma and the
arguments with commas between them. If neither the name has a bracket nor the scan goes deeper than
depth two, the commas of the cut are those that the scan passes at depth one. -/
theorem fields_cut_at_outer_commas (known : Text → Bool) (p : Text) (call : Call) (g : Group)
    (hfield : .field call g ∈ (Pattern.ofText known p).segments) :
    (comma ∉ g.source → call.args = []) ∧
      (comma ∈ g.source → call.args ≠ [] ∧
        g.source = g.source.takeWhile (· ≠ comma) ++ comma :: Text.joined [comma] call.args) ∧
      ((∀ u ∈ call.name, isBracket u = false) → (∀ x ∈ g.unitsIn p, x.depth ≤ 2) →
        jointsFrom 0 (g.source.takeWhile (· ≠ comma) :: call.args) = outerCommas 0 (g.unitsIn p)) := by
  obtain ⟨hmem, rfl, -⟩ := (Segment.field_mem_foldr known).1 hfield
  obtain ⟨rest, left, hout, hd, hend⟩ := Piece.outside_of_mem p 0 p (outside_start p) g hmem
  have henc := enclosed_of_groupEnd 0 rest g.source left hend
  rw [hout.unitsIn_eq hd hend]
  by_cases hcomma : comma ∈ g.source
  · obtain ⟨before, after, hsource, hbefore⟩ := List.eq_append_cons_of_mem hcomma
    rw [hsource] at henc ⊢
    rw [ofSource_append hbefore, takeWhile_ne_comma hbefore]
    obtain ⟨m, hafter⟩ := henc.exists_after comma_not_bracket before after rfl
    have hrejoins : Rejoins false after := (rejoins_of_enclosed hafter).1 false fun hw => by cases hw
    refine ⟨fun h => absurd (by simp) h, fun _ => ⟨hrejoins.ne_nil, ?_⟩, fun hname hdepth => ?_⟩
    · rw [splitArguments, hrejoins.joined]
    · have hplain : ∀ u ∈ before, isBracket u = false := not_bracket_of_trim hname
      have hzero := (henc.of_append hplain).of_cons comma_not_bracket
      rw [passFrom_append_of_plain hplain, passFrom_other comma_not_bracket] at hdepth ⊢
      obtain ⟨-, hdepth⟩ := List.forall_mem_append.1 hdepth
      have hjoints := (joints_of_enclosed hzero (Nat.zero_le 1) (List.forall_mem_cons.1 hdepth).2).1
      rw [outerCommas_append hbefore, outerCommas_comma]
      refine (jointsFrom_cons hrejoins.ne_nil 0 before).trans ?_
      exact congrArg ((0 + before.length) :: ·) (hjoints (0 + before.length + 1))
  · rw [ofSource_of_notMem hcomma]
    refine ⟨fun _ => rfl, fun h => absurd h hcomma, fun hname _ => ?_⟩
    have hplain : ∀ u ∈ g.source, isBracket u = false := not_bracket_of_trim hname
    have hunits := passFrom_append_of_plain hplain 1 []
    rw [List.append_nil] at hunits
    rw [hunits, outerCommas_append hcomma]
    rfl

/-- A comma between brackets is none of the cuts, whatever the doubled bracket before it. -/
theorem wrapped_comma_is_no_cut :
    .field ⟨text "n", [text " [[[a,b]", text " c"]⟩ ⟨text "n, [[[a,b], c", 1⟩
        ∈ (Pattern.ofText (fun _ => true) (text "x[n, [[[a,b], c]")).segments ∧
      jointsFrom 0 [text "n", text " [[[a,b]", text " c"] = [1, 10] ∧
      outerCommas 0 (Group.unitsIn ⟨text "n, [[[a,b], c", 1⟩ (text "x[n, [[[a,b], c]")) = [1, 10] := by
  have hmem : .field ⟨text "n", [text " [[[a,b]", text " c"]⟩ ⟨text "n, [[[a,b], c", 1⟩
      ∈ (Pattern.ofText (fun _ => true) (text "x[n, [[[a,b], c]")).segments := by decide +kernel
  have hname := not_bracket_of_all (t := text "n") (by decide)
  have hcut := (fields_cut_at_outer_commas _ _ _ _ hmem).2.2 hname (by decide +kernel)
  have hjoints : jointsFrom 0 [text "n", text " [[[a,b]", text " c"] = [1, 10] := by decide +kernel
  exact ⟨hmem, hjoints, hcut.symm.trans hjoints⟩

end NamePattern
