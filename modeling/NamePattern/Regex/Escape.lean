import NamePattern.Text.Identifier
import NamePattern.Regex.Syntax

/-!
The parts of an expression's source below the level of tokens: numbers, escapes, group names and
character classes. Readers take the characters of the source and give back what they read with the
rest, or nothing where the source is in error. Outside Unicode mode the older, lenient grammar holds:
an escape that means nothing stands for its own character, and `\1` to `\377` may be octal.

Sets of characters by a Unicode property are left out: in Unicode mode a source with `\p` or `\P` is taken
to be in error, whatever property it names.
-/

namespace NamePattern.Regex

/-- The number of an ASCII character. -/
def code (c : Char) : Nat := c.toNat

/-- What the reading of an escape depends on. -/
structure Grammar where
  unicode : Bool
  hasNames : Bool
  groupCount : Nat

/-- Reads one thing after another to the end. -/
def readAll {α : Type} (read : List Nat → Option (α × List Nat)) (cs : List Nat) :
    Option (List α) :=
  match cs with
  | [] => some []
  | c :: rest =>
    match read (c :: rest) with
    | none => none
    | some (a, after) =>
      if _shorter : after.length < rest.length + 1 then (readAll read after).map (a :: ·)
      else none
termination_by cs.length

/-- Whether a character is an ASCII digit. -/
def isDecimal (c : Nat) : Bool := code '0' ≤ c && c ≤ code '9'

/-- Whether a character is an octal digit. -/
def isOctal (c : Nat) : Bool := code '0' ≤ c && c ≤ code '7'

/-- Whether a character is an ASCII letter. -/
def isLetter (c : Nat) : Bool :=
  (code 'a' ≤ c && c ≤ code 'z') || (code 'A' ≤ c && c ≤ code 'Z')

/-- The value of a hexadecimal digit. -/
def hexValue? (c : Nat) : Option Nat :=
  if isDecimal c then some (c - code '0')
  else if code 'a' ≤ c && c ≤ code 'f' then some (c - code 'a' + 10)
  else if code 'A' ≤ c && c ≤ code 'F' then some (c - code 'A' + 10)
  else none

/-- Reads exactly `count` hexadecimal digits onto a value. -/
def takeHex (count value : Nat) (cs : List Nat) : Option (Nat × List Nat) :=
  match count, cs with
  | 0, cs => some (value, cs)
  | _ + 1, [] => none
  | count + 1, c :: rest => (hexValue? c).bind fun d => takeHex count (16 * value + d) rest

/-- The number that decimal digits stand for. -/
def decimalOf (digits : List Nat) : Nat := digits.foldl (fun n c => 10 * n + (c - code '0')) 0

/-- Reads one or more decimal digits. -/
def takeDecimal (cs : List Nat) : Option (Nat × List Nat) :=
  match cs.takeWhile isDecimal with
  | [] => none
  | digits => some (decimalOf digits, cs.dropWhile isDecimal)

/-- Reads an octal number below 256 of up to three digits, the first of them given. -/
def takeOctal (first : Nat) (cs : List Nat) : Nat × List Nat :=
  let value := first - code '0'
  match cs with
  | c :: rest =>
    if isOctal c then
      let value := 8 * value + (c - code '0')
      match rest with
      | d :: after =>
        if value < 32 && isOctal d then (8 * value + (d - code '0'), after) else (value, rest)
      | [] => (value, rest)
    else (value, cs)
  | [] => (value, cs)

/-- The largest code point. -/
def lastPoint : Nat := 0x10FFFF

/-- Reads hexadecimal digits up to a closing brace. -/
def takeBraced (cs : List Nat) : Option (Nat × List Nat) :=
  let digits := cs.takeWhile fun c => (hexValue? c).isSome
  match digits, cs.dropWhile fun c => (hexValue? c).isSome with
  | _ :: _, c :: rest =>
    if c = 0x7D then
      (digits.foldlM (fun n c => (hexValue? c).bind fun d =>
        if 16 * n + d ≤ lastPoint then some (16 * n + d) else none) 0).map fun n => (n, rest)
    else none
  | _, _ => none

/-- Reads what follows `\u`. In Unicode mode braces are allowed and two halves of a pair are joined. -/
def takeUnicode (unicode : Bool) (cs : List Nat) : Option (Nat × List Nat) :=
  match unicode, cs with
  | true, 0x7B :: rest => takeBraced rest
  | false, _ => takeHex 4 0 cs
  | true, _ =>
    (takeHex 4 0 cs).bind fun (lead, rest) =>
      match rest with
      | 0x5C :: 0x75 :: more =>
        match takeHex 4 0 more with
        | some (trail, after) =>
          if isLead (UInt16.ofNat lead) && isTrail (UInt16.ofNat trail)
          then some (joinSurrogates (UInt16.ofNat lead) (UInt16.ofNat trail), after)
          else some (lead, rest)
        | none => some (lead, rest)
      | _ => some (lead, rest)

/-- Characters with a meaning of their own, and the slash: those that any mode allows escaped. -/
def isSyntaxCharacter (c : Nat) : Bool :=
  (text "^$\\.*+?()[]\x7b\x7d|/").any fun u => u.toNat = c

/-- Reads the character that an escape stands for, after its backslash. In Unicode mode a letter without a
meaning is an error, and so are `p` and `P`, which name a property there. -/
def takeEscape (g : Grammar) (inClass : Bool) (cs : List Nat) : Option (Nat × List Nat) :=
  match cs with
  | [] => none
  | c :: rest =>
    let itself : Option (Nat × List Nat) := if g.unicode then none else some (c, rest)
    if c = code 'f' then some (0x0C, rest)
    else if c = code 'n' then some (0x0A, rest)
    else if c = code 'r' then some (0x0D, rest)
    else if c = code 't' then some (0x09, rest)
    else if c = code 'v' then some (0x0B, rest)
    else if c = code 'c' then
      let backslash := if g.unicode then none else some (code '\\', cs)
      match rest with
      | l :: after =>
        if isLetter l || (inClass && !g.unicode && (isDecimal l || l = code '_'))
        then some (l % 32, after) else backslash
      | [] => backslash
    else if c = code '0' && g.unicode then
      if (rest.head?.map isDecimal).getD false then none else some (0, rest)
    else if isOctal c then if g.unicode then none else some (takeOctal c rest)
    else if c = code 'x' then (takeHex 2 0 rest).or itself
    else if c = code 'u' then (takeUnicode g.unicode rest).or itself
    else if c = code 'k' && g.hasNames then none
    else if g.unicode then
      if isSyntaxCharacter c || (inClass && c = code '-') then some (c, rest) else none
    else some (c, rest)

/-- The named set of characters that an escape letter stands for. -/
def namedSet? (c : Nat) : Option ClassItem :=
  if c = code 'd' then some (.digits false) else if c = code 'D' then some (.digits true)
  else if c = code 'w' then some (.words false) else if c = code 'W' then some (.words true)
  else if c = code 's' then some (.blanks false) else if c = code 'S' then some (.blanks true)
  else none

/-- Reads one character of a group name. -/
def takeNamePoint : List Nat → Option (Nat × List Nat)
  | 0x5C :: 0x75 :: rest => takeUnicode true rest
  | 0x5C :: _ => none
  | c :: rest => some (c, rest)
  | [] => none

/-- The group name that characters spell, if it is an identifier. -/
def groupName? (cs : List Nat) : Option Text :=
  (readAll takeNamePoint (Text.ofPoints cs).points).bind fun points =>
    match points with
    | [] => none
    | first :: rest =>
      if isIdStart first && rest.all isIdPart then some (Text.ofPoints points) else none

/-- Reads a group name and the angle bracket that ends it. -/
def takeGroupName (cs : List Nat) : Option (Text × List Nat) :=
  match cs.dropWhile (· != code '>') with
  | [] => none
  | _ :: rest => (groupName? (cs.takeWhile (· != code '>'))).map fun name => (name, rest)

/-- Reads one member of a class. -/
def takeClassAtom (g : Grammar) (cs : List Nat) : Option (ClassItem × List Nat) :=
  match cs with
  | [] => none
  | c :: rest =>
    if c = code '\\' then
      match rest with
      | [] => none
      | e :: after =>
        if e = code 'b' then some (.range 8 8, after)
        else
          match namedSet? e with
          | some item => some (item, after)
          | none => (takeEscape g true rest).map fun (p, after) => (.range p p, after)
    else some (.range c c, rest)

/-- Reads a member of a class or an interval of characters. Outside Unicode mode a hyphen next to a
named set is itself a member. -/
def takeClassItems (g : Grammar) (cs : List Nat) : Option (List ClassItem × List Nat) :=
  (takeClassAtom g cs).bind fun (first, rest) =>
    match rest with
    | 0x2D :: more =>
      match more with
      | [] => none
      | 0x5D :: _ => some ([first], rest)
      | _ =>
        (takeClassAtom g more).bind fun (last, after) =>
          match first, last with
          | .range a _, .range b _ => if a ≤ b then some ([.range a b], after) else none
          | _, _ =>
            if g.unicode then none
            else some ([first, .range (code '-') (code '-'), last], after)
    | _ => some ([first], rest)

/-- Reads the members of a class up to its closing bracket. -/
def takeClassBody (g : Grammar) (cs : List Nat) : Option (List ClassItem × List Nat) :=
  match cs with
  | [] => none
  | c :: rest =>
    if c = code ']' then some ([], rest)
    else
      match takeClassItems g (c :: rest) with
      | none => none
      | some (items, after) =>
        if _shorter : after.length < rest.length + 1 then
          (takeClassBody g after).map fun (more, after) => (items ++ more, after)
        else none
termination_by cs.length

/-- Reads a class after its opening bracket. -/
def takeClass (g : Grammar) (cs : List Nat) : Option (Node × List Nat) :=
  match cs with
  | 0x5E :: rest => (takeClassBody g rest).map fun (items, after) => (.oneOf true items, after)
  | _ => (takeClassBody g cs).map fun (items, after) => (.oneOf false items, after)

end NamePattern.Regex
