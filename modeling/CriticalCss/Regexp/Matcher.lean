import CriticalCss.Regexp.Parser
import CriticalCss.Unicode.Case

/-!
# Finding what a regular expression selects

An expression is tried at a place of a text and hands each place it can reach to a continuation, the preferred one first; the first
success of the continuation is the result. Every repetition has to make progress, so the search ends.
-/

namespace CriticalCss.Regexp

/-! ## Single code points -/

/-- Whether a code point is of a kind. -/
def Category.holds (modes : Modes) (n : Nat) : Category → Bool
  | .digit => if modes.ascii then 0x30 ≤ n && n ≤ 0x39 else Unicode.isDigit n
  | .blank => if modes.ascii then n == 0x20 || (0x09 ≤ n && n ≤ 0x0D) else Text.isBlank (Char.ofNat n)
  | .word =>
    if modes.ascii then (0x30 ≤ n && n ≤ 0x39) || (0x41 ≤ n && n ≤ 0x5A) || n == 0x5F || (0x61 ≤ n && n ≤ 0x7A)
    else Unicode.isWordPart n

/-- The lower case of a code point in the alphabet of the modes. -/
def Modes.lower (modes : Modes) (n : Nat) : Nat :=
  if modes.ascii then (if 0x41 ≤ n ∧ n ≤ 0x5A then n + 0x20 else n) else Unicode.lowerOne n

/-- Whether a code point has letter case in the alphabet of the modes. -/
def Modes.hasCase (modes : Modes) (n : Nat) : Bool :=
  if modes.ascii then (0x41 ≤ n && n ≤ 0x5A) || (0x61 ≤ n && n ≤ 0x7A) else Unicode.hasCase n

/-- The code points that count as the same small letter in the alphabet of the modes. -/
def Modes.letterClass (modes : Modes) (n : Nat) : List Nat := if modes.ascii then [n] else n :: Unicode.twins n

/-- Whether a code point is the one that is asked for. -/
def accepts (modes : Modes) (wanted n : Nat) : Bool :=
  if modes.ignoreCase && modes.hasCase wanted then (modes.letterClass (modes.lower wanted)).elem (modes.lower n)
  else wanted == n

/-- Whether a member of a set makes the whole set blind to case. -/
def SetItem.hasCase (modes : Modes) : SetItem → Bool
  | .single n => 0xFFFF < n || modes.hasCase n
  | .range a b =>
    0xFFFF < b ||
    (if modes.ascii then (a ≤ 0x5A && 0x41 ≤ b) || (a ≤ 0x7A && 0x61 ≤ b)
     else Unicode.capitalRanges.any fun r => r.1 ≤ b && a ≤ r.2)
  | .category _ _ => false

/-- Whether a code point belongs to a member of a set. -/
def SetItem.holds (modes : Modes) (n : Nat) : SetItem → Bool
  | .single m => m == n
  | .range a b => a ≤ n && n ≤ b
  | .category kind negated => kind.holds modes n != negated

/-- The code points with the given lower case in the alphabet of the modes. -/
def Modes.lowerPreimage (modes : Modes) (n : Nat) : List Nat :=
  if modes.ascii then
    (if 0x41 ≤ n ∧ n ≤ 0x5A then [] else if 0x61 ≤ n ∧ n ≤ 0x7A then [n, n - 0x20] else [n])
  else Unicode.lowerPreimage n

/-- Whether a small letter belongs to a member of a set without regard to case. Beyond the first plane a single code point is compared
as it is written, and a range holds a letter if it holds it in either case. -/
def SetItem.holdsLower (modes : Modes) (n : Nat) : SetItem → Bool
  | .single m => if 0xFFFF < m then m == n else (modes.letterClass (modes.lower m)).elem n
  | .range a b =>
    ((modes.letterClass n).flatMap modes.lowerPreimage).any (fun m => a ≤ m && m ≤ min b 0xFFFF) ||
    (0xFFFF < b && ((a ≤ n && n ≤ b) || (Unicode.lowerPreimage n).any fun m => a ≤ m && m ≤ b))
  | .category kind negated => kind.holds modes n != negated

/-- Whether a code point belongs to a set. -/
def setHolds (modes : Modes) (negated : Bool) (items : List SetItem) (n : Nat) : Bool :=
  let found :=
    if modes.ignoreCase && items.any (·.hasCase modes) then items.any (·.holdsLower modes (modes.lower n))
    else items.any (·.holds modes n)
  found != negated

/-! ## Places -/

/-- A place of a text that has been reached, with the places where groups began and ended on the way, the latest first. -/
structure Place where
  position : Nat
  begun : List (Nat × Nat) := []
  ended : List (Nat × Nat) := []
  deriving Repr

/-- What is to be done from a place. -/
abbrev Continuation := Place → Option Place

/-- The part of the text that a group took, when it took one. -/
def Place.span? (p : Place) (number : Nat) : Option (Nat × Nat) :=
  match p.begun.lookup number, p.ended.lookup number with
  | some a, some b => if a ≤ b then some (a, b) else none
  | _, _ => none

/-- Whether a code point of a word stands at a position. -/
def wordAt (modes : Modes) (input : Array Char) (position : Nat) : Bool :=
  match input[position]? with
  | some c => Category.word.holds modes c.toNat
  | none => false

/-- Whether a condition holds at a position. -/
def Anchor.holds (modes : Modes) (input : Array Char) (position : Nat) : Anchor → Bool
  | .first => position == 0 || (modes.multiline && input[position - 1]? == some '\n')
  | .last =>
    position == input.size ||
    (input[position]? == some '\n' && (modes.multiline || position + 1 == input.size))
  | .textStart => position == 0
  | .textEnd => position == input.size
  | .boundary =>
    input.size != 0 && (wordAt modes input position != (position != 0 && wordAt modes input (position - 1)))
  | .inside =>
    input.size != 0 && (wordAt modes input position == (position != 0 && wordAt modes input (position - 1)))

/-- Takes one code point of a kind. -/
def step (input : Array Char) (kind : Nat → Bool) (k : Continuation) (p : Place) : Option Place :=
  match input[p.position]? with
  | some c => if kind c.toNat then k { p with position := p.position + 1 } else none
  | none => none

/-! ## Repetitions -/

/-- Tries a body a number of times in a row. -/
def exactly (body : Continuation → Place → Option Place) : Nat → Continuation → Place → Option Place
  | 0, k, p => k p
  | n + 1, k, p => body (exactly body n k) p

/-- Whether a repetition may go on: its bound is not reached, and the last round has not ended where it began. -/
def mayRepeat (left last : Option Nat) (p : Place) : Bool := left != some 0 && last != some p.position

/-- Tries another round before going on. -/
def greedily (body : Continuation → Place → Option Place) :
    Nat → (left last : Option Nat) → Continuation → Place → Option Place
  | 0, _, _, k, p => k p
  | fuel + 1, left, last, k, p =>
    if mayRepeat left last p then
      match body (greedily body fuel (left.map (· - 1)) (some p.position) k) p with
      | some r => some r
      | none => k p
    else k p

/-- Goes on before trying another round. -/
def lazily (body : Continuation → Place → Option Place) :
    Nat → (left last : Option Nat) → Continuation → Place → Option Place
  | 0, _, _, k, p => k p
  | fuel + 1, left, last, k, p =>
    match k p with
    | some r => some r
    | none =>
      if mayRepeat left last p then body (lazily body fuel (left.map (· - 1)) (some p.position) k) p else none

/-- Takes as many rounds as there are, each in its first way, and then goes on. -/
def possessively (body : Continuation → Place → Option Place) :
    Nat → (left last : Option Nat) → Place → Place
  | 0, _, _, p => p
  | fuel + 1, left, last, p =>
    if mayRepeat left last p then
      match body some p with
      | some r => possessively body fuel (left.map (· - 1)) (some p.position) r
      | none => p
    else p

/-- Takes a number of rounds, each in its first way. -/
def exactlyOnce (body : Continuation → Place → Option Place) : Nat → Place → Option Place
  | 0, p => some p
  | n + 1, p => (body some p).bind (exactlyOnce body n)

/-- Whether the text of a span stands at a position, and how the comparison is made. -/
def sameText (modes : Modes) (input : Array Char) (start size position : Nat) : Bool :=
  (List.range size).all fun i =>
    match input[start + i]?, input[position + i]? with
    | some a, some b =>
      if modes.ignoreCase then modes.lower a.toNat == modes.lower b.toNat else a == b
    | _, _ => false

/-! ## Expressions -/

/-- Tries an expression at a place. -/
def Expr.run (input : Array Char) : Expr → Modes → Continuation → Place → Option Place
  | .empty, _, k, p => k p
  | .single n, modes, k, p => step input (accepts modes n) k p
  | .except n, modes, k, p => step input (fun m => !accepts modes n m) k p
  | .oneOf negated items, modes, k, p => step input (setHolds modes negated items) k p
  | .any, modes, k, p => step input (fun n => modes.dotAll || n != 0x0A) k p
  | .anchor kind, modes, k, p => if kind.holds modes input p.position then k p else none
  | .sequence a b, modes, k, p => a.run input modes (b.run input modes k) p
  | .choice a b, modes, k, p =>
    match a.run input modes k p with
    | some r => some r
    | none => b.run input modes k p
  | .group none change body, modes, k, p => body.run input (modes.change change) k p
  | .group (some number) change body, modes, k, p =>
    body.run input (modes.change change) (fun q => k { q with ended := (number, q.position) :: q.ended })
      { p with begun := (number, p.position) :: p.begun }
  | .atomic body, modes, k, p =>
    match body.run input modes some p with
    | some q => k q
    | none => none
  | .loop least most greed body, modes, k, p =>
    let left := most.map (· - least)
    let round := body.run input modes
    let fuel (q : Place) := input.size + 1 - q.position
    match greed with
    | .greedy => exactly round least (fun q => greedily round (fuel q) left none k q) p
    | .lazy => exactly round least (fun q => lazily round (fuel q) left none k q) p
    | .possessive =>
      match exactlyOnce round least p with
      | some q => k (possessively round (fuel q) left none q)
      | none => none
  | .look behind negated body, modes, k, p =>
    let back := if behind then body.width.least else 0
    let found :=
      if p.position < back then none
      else body.run input modes some { p with position := p.position - back }
    match found with
    | some q => if negated then none else k { q with position := p.position }
    | none => if negated then k p else none
  | .same number _, modes, k, p =>
    match p.span? number with
    | some (a, b) =>
      if sameText modes input a (b - a) p.position then k { p with position := p.position + (b - a) } else none
    | none => none
  | .ifGroup number yes no, modes, k, p =>
    if (p.span? number).isSome then yes.run input modes k p else no.run input modes k p

/-! ## Programs -/

/-- An expression that has been read, with the modes of the whole. -/
structure Program where
  expr : Expr
  modes : Modes
  deriving DecidableEq, Repr

/-- Reads a source under given modes. -/
def compile [Host] (source : Text) (modes : Modes) : Except Failure Program :=
  (parse source modes).map fun r => ⟨r.1, r.2⟩

/-- Whether a program accepts a part of a text that begins at a position. -/
def Program.acceptsAt (program : Program) (input : Array Char) (position : Nat) : Bool :=
  (program.expr.run input program.modes some { position := position }).isSome

/-- Whether a program accepts a part of a text that begins where the text does. -/
def Program.acceptsStart (program : Program) (t : Text) : Bool := program.acceptsAt t.toArray 0

/-- Whether a program accepts any part of a text. -/
def Program.acceptsPart (program : Program) (t : Text) : Bool :=
  (List.range (t.length + 1)).any (program.acceptsAt t.toArray)

end CriticalCss.Regexp
