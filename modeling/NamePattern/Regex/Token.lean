import NamePattern.Regex.Escape

/-!
The tokens of an expression's source. What a backslash and a number mean depends on how many groups
the whole source has and on whether any of them has a name, so these two are counted first.
-/

namespace NamePattern.Regex

/-- What an opening parenthesis begins. -/
inductive Opening
  | capture (name : Option Text)
  | plain
  | look (behind negated : Bool)
  deriving DecidableEq

/-- A token: a whole atom or assertion, a reference to a group by its name, or a mark. -/
inductive Token
  | atom (node : Node)
  | assertion (node : Node)
  | namedRef (name : Text)
  | opening (kind : Opening)
  | close
  | bar
  | quantifier (least : Nat) (most : Option Nat) (greedy : Bool)

/-- The heads of the capturing groups of a source in order, each with whether it has a name. Escaped
characters and classes are passed over. -/
def captureHeads (inClass : Bool) : List Nat → List Bool
  | [] => []
  | [c] => if c = code '(' && !inClass then [false] else []
  | c :: d :: rest =>
    if c = code '\\' then captureHeads inClass rest
    else if inClass then captureHeads (c != code ']') (d :: rest)
    else if c = code '[' then captureHeads true (d :: rest)
    else if c = code '(' then
      if d = code '?' then
        match rest with
        | l :: e :: _ =>
          if l = code '<' && e ≠ code '=' && e ≠ code '!' then true :: captureHeads false rest
          else captureHeads false rest
        | _ => captureHeads false rest
      else false :: captureHeads false (d :: rest)
    else captureHeads false (d :: rest)

/-- The grammar that a source is read by. -/
def Grammar.ofSource (unicode : Bool) (source : List Nat) : Grammar :=
  let heads := captureHeads false source
  ⟨unicode, heads.any id, heads.length⟩

/-- Bounds of repetition from here on count as unbounded. -/
def unbounded : Nat := 2147483647

/-- A largest number of rounds. -/
def mostRounds (n : Nat) : Option Nat := if unbounded ≤ n then none else some n

/-- Reads bounds of repetition after their opening brace. -/
def takeBounds (cs : List Nat) : Option ((Nat × Option Nat) × List Nat) :=
  (takeDecimal cs).bind fun (least, rest) =>
    let least := min least unbounded
    match rest with
    | 0x7D :: after => some ((least, mostRounds least), after)
    | 0x2C :: 0x7D :: after => some ((least, none), after)
    | 0x2C :: more =>
      (takeDecimal more).bind fun (most, rest) =>
        match rest with
        | 0x7D :: after => some ((least, mostRounds most), after)
        | _ => none
    | _ => none

/-- A quantifier with the question mark after it, if there is one. -/
def takeLaziness (least : Nat) (most : Option Nat) (cs : List Nat) : Token × List Nat :=
  match cs with
  | 0x3F :: rest => (.quantifier least most false, rest)
  | _ => (.quantifier least most true, cs)

/-- Reads a token after its backslash. -/
def takeEscapeToken (g : Grammar) (cs : List Nat) : Option (Token × List Nat) :=
  match cs with
  | [] => none
  | c :: rest =>
    if c = code 'b' then some (.assertion (.boundary false), rest)
    else if c = code 'B' then some (.assertion (.boundary true), rest)
    else if c = code 'k' && (g.unicode || g.hasNames) then
      match rest with
      | 0x3C :: more => (takeGroupName more).map fun (name, after) => (.namedRef name, after)
      | _ => none
    else
      match namedSet? c with
      | some item => some (.atom (.oneOf false [item]), rest)
      | none =>
        let character := (takeEscape g false cs).map fun (p, after) => (Token.atom (.char p), after)
        if code '1' ≤ c && c ≤ code '9' then
          match takeDecimal cs with
          | some (index, after) =>
            if index ≤ g.groupCount then some (.atom (.backref index), after) else character
          | none => character
        else character

/-- Reads what an opening parenthesis begins, after it. -/
def takeOpening (cs : List Nat) : Option (Token × List Nat) :=
  match cs with
  | 0x3F :: 0x3A :: rest => some (.opening .plain, rest)
  | 0x3F :: 0x3D :: rest => some (.opening (.look false false), rest)
  | 0x3F :: 0x21 :: rest => some (.opening (.look false true), rest)
  | 0x3F :: 0x3C :: 0x3D :: rest => some (.opening (.look true false), rest)
  | 0x3F :: 0x3C :: 0x21 :: rest => some (.opening (.look true true), rest)
  | 0x3F :: 0x3C :: rest =>
    (takeGroupName rest).map fun (name, after) => (.opening (.capture (some name)), after)
  | 0x3F :: _ => none
  | _ => some (.opening (.capture none), cs)

/-- Reads one token. -/
def takeToken (g : Grammar) (cs : List Nat) : Option (Token × List Nat) :=
  match cs with
  | [] => none
  | c :: rest =>
    let itself : Option (Token × List Nat) :=
      if g.unicode then none else some (.atom (.char c), rest)
    if c = code '^' then some (.assertion .lineStart, rest)
    else if c = code '$' then some (.assertion .lineEnd, rest)
    else if c = code '(' then takeOpening rest
    else if c = code ')' then some (.close, rest)
    else if c = code '|' then some (.bar, rest)
    else if c = code '*' then some (takeLaziness 0 none rest)
    else if c = code '+' then some (takeLaziness 1 none rest)
    else if c = code '?' then some (takeLaziness 0 (some 1) rest)
    else if c = 0x7B then
      match takeBounds rest with
      | some ((least, most), after) => some (takeLaziness least most after)
      | none => itself
    else if c = 0x7D || c = code ']' then itself
    else if c = code '.' then some (.atom .any, rest)
    else if c = code '[' then (takeClass g rest).map fun (node, after) => (.atom node, after)
    else if c = code '\\' then takeEscapeToken g rest
    else some (.atom (.char c), rest)

/-- The tokens of a source. -/
def tokens? (g : Grammar) (source : List Nat) : Option (List Token) := readAll (takeToken g) source

/-- The names of the groups among some tokens, each with the index of its group. -/
def namedGroups (tokens : List Token) : List (Text × Nat) :=
  let heads := tokens.filterMap fun
    | .opening (.capture name) => some name
    | _ => none
  heads.zipIdx.filterMap fun (name, i) => name.map fun n => (n, i + 1)

end NamePattern.Regex
