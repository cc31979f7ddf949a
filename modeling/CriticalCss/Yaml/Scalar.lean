import CriticalCss.Text.Utf8
import CriticalCss.Yaml.Cursor
import CriticalCss.Yaml.Fault

/-!
# Scalars in a source

The three ways to write a scalar: between quotes, as a block of indented lines, and plain. Line breaks inside a scalar are folded: a
single one becomes a blank, and of several the first is left out.
-/

namespace CriticalCss.Yaml

/-- What a line break and those after it become when they are folded. -/
def foldBreak (first more : Text) : Text :=
  if first != ['\n'] then first ++ more else if more.isEmpty then [' '] else more

/-! ## Quoted scalars -/

/-- The line breaks from here on, with the blanks around them passed over. -/
def quotedBreaks : Nat → Cursor → Except Fault (Text × Cursor)
  | 0, c => .ok ([], c)
  | fuel + 1, c =>
    if atMarker c.rest then .error .malformed
    else
      let c := c.skip isSpace
      match c.takeBreak with
      | ([], c) => .ok ([], c)
      | (b, c) => do
        let (more, c) ← quotedBreaks fuel c
        return (b ++ more, c)

/-- The gap between two words of a quoted scalar. -/
def quotedGap (c : Cursor) : Except Fault (Text × Cursor) :=
  let (blanks, c) := c.span isSpace
  if c.rest.isEmpty then .error .malformed
  else match c.takeBreak with
    | ([], c) => .ok (blanks, c)
    | (b, c) => do
      let (more, c) ← quotedBreaks (c.rest.length + 1) c
      return (foldBreak b more, c)

/-- What a backslash with a letter stands for. -/
def namedEscape? (c : Char) : Option Char :=
  match c with
  | '0' => some '\x00'
  | 'a' => some '\x07'
  | 'b' => some '\x08'
  | 't' => some '\t'
  | '\t' => some '\t'
  | 'n' => some '\n'
  | 'v' => some '\x0B'
  | 'f' => some '\x0C'
  | 'r' => some '\r'
  | 'e' => some '\x1B'
  | ' ' => some ' '
  | '\x22' => some '\x22'
  | '\\' => some '\\'
  | '/' => some '/'
  | 'N' => some '\x85'
  | '_' => some '\xA0'
  | 'L' => some '\u2028'
  | 'P' => some '\u2029'
  | _ => none

/-- How many hexadecimal digits follow a backslash with a letter. -/
def escapeDigits? (c : Char) : Option Nat :=
  match c with
  | 'x' => some 2
  | 'u' => some 4
  | 'U' => some 8
  | _ => none

/-- The code point of a number. In the place of a half of sixteen bits, which no text holds, stands the replacement character. -/
def charOfCode (n : Nat) : Except Fault Char :=
  if 0xD800 ≤ n ∧ n < 0xE000 then .ok Utf8.replacement
  else if n ≤ 0x10FFFF then .ok (Char.ofNat n)
  else if n < 0x80000000 then .error .codeTooLarge
  else .error .codePastCounting

/-- What stands behind a backslash in a scalar between double quotes. -/
def escape (c : Cursor) : Except Fault (Text × Cursor) :=
  match c.rest with
  | [] => .error .malformed
  | a :: rest =>
    match namedEscape? a, escapeDigits? a with
    | some b, _ => .ok ([b], c.advance)
    | none, some count =>
      let digits := rest.take count
      if digits.length < count then .error .malformed
      else match Text.hexNumber? digits with
        | some n => do return ([← charOfCode n], c.advanceBy (count + 1))
        | none => .error .malformed
    | none, none =>
      if isBreak a then quotedBreaks (rest.length + 1) c.takeBreak.2 else .error .malformed

/-- The quote around a scalar. -/
def quoteOf (double : Bool) : Char := if double then '\x22' else '\x27'

/-- A word of a quoted scalar: what comes before the next gap or the closing quote. -/
def quotedWord (double : Bool) : Nat → Cursor → Except Fault (Text × Cursor)
  | 0, c => .ok ([], c)
  | fuel + 1, c =>
    match c.rest with
    | [] => .ok ([], c)
    | a :: rest =>
      if !double && a == '\x27' && rest.head? == some '\x27' then do
        let (more, c) ← quotedWord double fuel (c.advanceBy 2)
        return (a :: more, c)
      else if double && a == '\\' then do
        let (part, c) ← escape c.advance
        let (more, c) ← quotedWord double fuel c
        return (part ++ more, c)
      else if a == quoteOf double || isGap a then .ok ([], c)
      else do
        let (more, c) ← quotedWord double fuel c.advance
        return (a :: more, c)

/-- The words and gaps of a quoted scalar up to its closing quote. -/
def quotedRest (double : Bool) : Nat → Cursor → Except Fault (Text × Cursor)
  | 0, _ => .error .malformed
  | fuel + 1, c => do
    let (word, c) ← quotedWord double (c.rest.length + 1) c
    if c.isAt (quoteOf double) then return (word, c.advance)
    else
      let (gap, c) ← quotedGap c
      let (more, c) ← quotedRest double fuel c
      return (word ++ gap ++ more, c)

/-- The scalar between quotes that begins here. -/
def quotedScalar (double : Bool) (c : Cursor) : Except Fault (Text × Cursor) :=
  quotedRest double (c.rest.length + 1) c.advance

/-! ## Plain scalars -/

/-- Whether a code point marks a part of a collection between brackets or braces. -/
def isFlowMark (c : Char) : Bool := c == ',' || c == '[' || c == ']' || c == '\x7b' || c == '\x7d'

/-- The length of the run of code points that a plain scalar goes on with. -/
def plainRun (flow : Bool) : Text → Nat
  | [] => 0
  | a :: rest =>
    if isGap a then 0
    else if a == ':' && (atGap rest || (flow && (rest.head?.map isFlowMark).getD false)) then 0
    else if flow && (isFlowMark a || a == '?') then 0
    else 1 + plainRun flow rest

/-- The line breaks between two runs of a plain scalar, blanks passed over; nothing if a mark between documents follows one. -/
def plainBreaks : Nat → Cursor → Option Text × Cursor
  | 0, c => (some [], c)
  | fuel + 1, c =>
    if c.isAt ' ' then plainBreaks fuel c.advance
    else match c.takeBreak with
      | ([], c) => (some [], c)
      | (b, c) =>
        if atMarker c.rest then (none, c)
        else
          let (more, c) := plainBreaks fuel c
          (more.map (b ++ ·), c)

/-- What stands between two runs of a plain scalar. -/
structure PlainGap where
  /-- What the gap becomes; nothing if the scalar ends here. -/
  text : Option Text
  /-- Whether the gap goes over the end of a line. -/
  crossed : Bool

/-- The gap behind a run of a plain scalar. -/
def plainGap (c : Cursor) : PlainGap × Cursor :=
  let (blanks, c) := c.span (· == ' ')
  match c.takeBreak with
  | ([], c) => (⟨if blanks.isEmpty then none else some blanks, false⟩, c)
  | (b, c) =>
    if atMarker c.rest then (⟨none, true⟩, c)
    else
      let (more, c) := plainBreaks (c.rest.length + 1) c
      (⟨more.map (foldBreak b), true⟩, c)

/-- A plain scalar, whether its last gap goes over the end of a line, and what follows it. -/
structure PlainScalar where
  text : Text
  crossed : Bool
  after : Cursor

/-- The runs and gaps of a plain scalar. Outside of brackets and braces it ends with a line that is indented less. -/
def plainRest (flow : Bool) (indent : Int) : Nat → Cursor → PlainScalar
  | 0, c => ⟨[], false, c⟩
  | fuel + 1, c =>
    let run := c.rest.take (plainRun flow c.rest)
    let (gap, next) := plainGap (c.advanceBy run.length)
    match gap.text with
    | none => ⟨run, gap.crossed, next⟩
    | some blanks =>
      if next.isAt '#' || (!flow && (next.column : Int) < indent) || plainRun flow next.rest == 0 then
        ⟨run, gap.crossed, next⟩
      else
        let more := plainRest flow indent fuel next
        { more with text := run ++ blanks ++ more.text }

/-- The plain scalar that begins here. -/
def plainScalar (flow : Bool) (indent : Int) (c : Cursor) : PlainScalar := plainRest flow indent (c.rest.length + 1) c

/-! ## Block scalars -/

/-- What becomes of the line breaks at the end of a block scalar. -/
inductive Chomping
  | strip
  | clip
  | keep
  deriving DecidableEq, Repr

/-- The sign that says what becomes of the line breaks at the end. -/
def chomping? (c : Char) : Option Chomping :=
  match c with
  | '+' => some .keep
  | '-' => some .strip
  | _ => none

/-- The number of blanks that an indicator asks for. Zero is none. -/
def indentDigit (c : Char) : Except Fault Nat := if c == '0' then .error .malformed else .ok (c.toNat - 0x30)

/-- The indicators of a block scalar, in either order, and what follows them. -/
def blockIndicators (c : Cursor) : Except Fault (Chomping × Option Nat × Cursor) := do
  match c.rest with
  | a :: b :: _ =>
    match chomping? a, chomping? b with
    | some chomping, _ =>
      if b.isDigit then return (chomping, some (← indentDigit b), c.advanceBy 2) else return (chomping, none, c.advance)
    | none, some chomping =>
      if a.isDigit then return (chomping, some (← indentDigit a), c.advanceBy 2) else return (.clip, none, c)
    | none, none => if a.isDigit then return (.clip, some (← indentDigit a), c.advance) else return (.clip, none, c)
  | [a] =>
    match chomping? a with
    | some chomping => return (chomping, none, c.advance)
    | none => if a.isDigit then return (.clip, some (← indentDigit a), c.advance) else return (.clip, none, c)
  | [] => return (.clip, none, c)

/-- Passes over the rest of a line, which may hold blanks and a comment. -/
def ignoredLine (c : Cursor) : Except Fault Cursor :=
  let c := c.skip (· == ' ')
  let c := if c.isAt '#' then c.skip (!isBreak ·) else c
  if atBreak c.rest then .ok c.takeBreak.2 else .error .malformed

/-- The empty lines before a block scalar, and the widest indentation among them and its first line. -/
def blockIndentation : Nat → Nat → Cursor → Text × Nat × Cursor
  | 0, widest, c => ([], widest, c)
  | fuel + 1, widest, c =>
    if c.isAt ' ' then blockIndentation fuel (max widest c.advance.column) c.advance
    else match c.takeBreak with
      | ([], c) => ([], widest, c)
      | (b, c) =>
        let (more, widest, c) := blockIndentation fuel widest c
        (b ++ more, widest, c)

/-- Passes over the indentation of a line, up to a width. -/
def skipIndent (indent : Nat) (c : Cursor) : Cursor :=
  c.advanceBy (c.rest.takeWhile (· == ' ') |>.length |> min (indent - c.column))

/-- The empty lines inside a block scalar; the indentation behind them is passed over. -/
def blockBreaks (indent : Nat) : Nat → Cursor → Text × Cursor
  | 0, c => ([], c)
  | fuel + 1, c =>
    match (skipIndent indent c).takeBreak with
    | ([], c) => ([], c)
    | (b, c) =>
      let (more, c) := blockBreaks indent fuel c
      (b ++ more, c)

/-- The lines of a block scalar. The result ends with its last line; its line break and the empty lines behind it are given apart. -/
def blockLines (folded : Bool) (indent : Nat) : Nat → Cursor → Text × Text × Text × Cursor
  | 0, c => ([], [], [], c)
  | fuel + 1, c =>
    let startsWithSpace := (c.rest.head?.map isSpace).getD false
    let (line, c) := c.span (!isBreak ·)
    let (b, c) := c.takeBreak
    let (breaks, c) := blockBreaks indent (c.rest.length + 1) c
    if c.column == indent && !c.rest.isEmpty then
      let nextSpace := (c.rest.head?.map isSpace).getD false
      let glue :=
        if folded && b == ['\n'] && !startsWithSpace && !nextSpace then (if breaks.isEmpty then [' '] else []) else b
      let (more, last, after, c) := blockLines folded indent fuel c
      (line ++ glue ++ breaks ++ more, last, after, c)
    else (line, b, breaks, c)

/-- The block scalar that begins here, inside a block of the given indentation. -/
def blockScalar (folded : Bool) (indent : Int) (c : Cursor) : Except Fault (Text × Cursor) := do
  let (chomping, asked, c) ← blockIndicators c.advance
  if !atBlank c.rest then .error .malformed
  else
    let c ← ignoredLine c
    let least := (max 1 (indent + 1)).toNat
    let (before, width, c) := match asked with
      | none =>
        let (before, widest, c) := blockIndentation (c.rest.length + 1) 0 c
        (before, max least widest, c)
      | some n =>
        let width := least + n - 1
        let (before, c) := blockBreaks width (c.rest.length + 1) c
        (before, width, c)
    let (body, last, after, c) :=
      if c.column == width && !c.rest.isEmpty then
        let (body, last, after, c) := blockLines folded width (c.rest.length + 1) c
        (before ++ body, last, after, c)
      else ([], [], before, c)
    let text := match chomping with
      | .strip => body
      | .clip => body ++ last
      | .keep => body ++ last ++ after
    return (text, c)

end CriticalCss.Yaml
