import NamePattern.Regex.Token

/-!
Expressions built from tokens. Open groups form a stack of frames; each frame holds the alternatives
that are finished and the terms of the current one, newest first. A quantifier takes the newest term,
which must be repeatable: an atom, a group, or outside Unicode mode a lookahead.
-/

namespace NamePattern.Regex

/-- A term with whether it may be repeated and how many groups were opened before it. -/
structure Term where
  node : Node
  repeatable : Bool
  groupsBefore : Nat

/-- The inside of an open group. -/
structure Frame where
  alternatives : Option Node
  terms : List Term

/-- A frame without content. -/
def Frame.fresh : Frame := ⟨none, []⟩

/-- The terms of the current alternative in sequence. -/
def Frame.sequence (f : Frame) : Node :=
  match f.terms with
  | [] => .empty
  | newest :: older => older.foldl (fun node term => .cat term.node node) newest.node

/-- What a frame holds. Alternatives lean to the left. -/
def Frame.node (f : Frame) : Node :=
  match f.alternatives with
  | none => f.sequence
  | some node => .alt node f.sequence

/-- A frame with one more term. -/
def Frame.push (f : Frame) (term : Term) : Frame := { f with terms := term :: f.terms }

/-- A group that is not closed yet: what opened it, how many groups were opened before, and the
frame around it. -/
structure OpenGroup where
  kind : Opening
  groupsBefore : Nat
  outer : Frame

/-- The expression so far. -/
structure Progress where
  stack : List OpenGroup
  current : Frame
  groupCount : Nat

/-- The term of a group that was just closed. -/
def closedTerm (unicode : Bool) (g : OpenGroup) (body : Node) : Term :=
  match g.kind with
  | .capture _ => ⟨.group (g.groupsBefore + 1) body, true, g.groupsBefore⟩
  | .plain => ⟨body, true, g.groupsBefore⟩
  | .look behind negated => ⟨.look behind negated body, !behind && !unicode, g.groupsBefore⟩

/-- Takes in one token. -/
def Progress.step (unicode : Bool) (names : List (Text × Nat)) (p : Progress) (token : Token) :
    Option Progress :=
  let push (node : Node) (repeatable : Bool) : Progress :=
    { p with current := p.current.push ⟨node, repeatable, p.groupCount⟩ }
  match token with
  | .atom node => some (push node true)
  | .assertion node => some (push node false)
  | .namedRef name =>
    (names.find? fun n => n.1 = name).map fun n => push (.backref n.2) true
  | .opening kind =>
    let opened := match kind with
      | .capture _ => 1
      | _ => 0
    some ⟨⟨kind, p.groupCount, p.current⟩ :: p.stack, .fresh, p.groupCount + opened⟩
  | .close =>
    match p.stack with
    | [] => none
    | g :: stack =>
      some ⟨stack, g.outer.push (closedTerm unicode g p.current.node), p.groupCount⟩
  | .bar => some { p with current := ⟨some p.current.node, []⟩ }
  | .quantifier least most greedy =>
    match p.current.terms with
    | [] => none
    | term :: older =>
      if term.repeatable && most.all (least ≤ ·) then
        let node := term.node.repeated least most greedy (term.groupsBefore, p.groupCount)
        some { p with current := ⟨p.current.alternatives, ⟨node, false, term.groupsBefore⟩ :: older⟩ }
      else none

/-- The expression that tokens spell. -/
def parse? (unicode : Bool) (names : List (Text × Nat)) (tokens : List Token) : Option Node :=
  (tokens.foldlM (Progress.step unicode names) ⟨[], .fresh, 0⟩).bind fun p =>
    if p.stack.isEmpty then some p.current.node else none

/-- Whether no two of some names are equal. -/
def distinct (names : List Text) : Bool :=
  match names with
  | [] => true
  | name :: rest => !rest.contains name && distinct rest

/-- The most groups that an expression may have. -/
def mostGroups : Nat := 32767

/-- The regular expression of a source and its flags, unless the source is in error. -/
def ofText? (source : Text) (flags : Flags) : Option Regex :=
  let characters := if flags.unicode then source.points else source.map UInt16.toNat
  let g := Grammar.ofSource flags.unicode characters
  (tokens? g characters).bind fun tokens =>
    let names := namedGroups tokens
    if g.groupCount ≤ mostGroups && distinct (names.map Prod.fst) then
      (parse? flags.unicode names tokens).map fun root => ⟨root, flags, g.groupCount, names⟩
    else none

end NamePattern.Regex
