import CriticalCss.Text.Basic

/-!
# Places in a source

The source of a YAML file is read from left to right. A cursor holds what is still to be read, and where it stands. Sources hold no
carriage returns: those are turned into line breaks before a file is read as YAML.
-/

namespace CriticalCss.Yaml

/-! ## Classes of code points -/

/-- Whether a code point ends a line. -/
def isBreak (c : Char) : Bool := c == '\n' || c == '\x85' || c == '\u2028' || c == '\u2029'

/-- Whether a code point is a blank or a tab. -/
def isSpace (c : Char) : Bool := c == ' ' || c == '\t'

/-- Whether a code point separates words. -/
def isGap (c : Char) : Bool := isSpace c || isBreak c

/-- Whether a code point may stand in a name. -/
def isNamePart (c : Char) : Bool := c.isAlphanum || c == '-' || c == '_'

/-- Whether a code point may stand in a source at all: controls, surrogates and the last two of the first plane may not. -/
def isAllowed (c : Char) : Bool :=
  let n := c.toNat
  n == 0x09 || n == 0x0A || n == 0x0D || (0x20 ≤ n && n ≤ 0x7E) || n == 0x85 || (0xA0 ≤ n && n ≤ 0xD7FF) ||
    (0xE000 ≤ n && n ≤ 0xFFFD) || 0x10000 ≤ n

/-- The mark for the byte order. -/
def byteOrderMark : Char := '\uFEFF'

/-- Whether a text is at its end or goes on with a gap. -/
def atGap : Text → Bool
  | [] => true
  | c :: _ => isGap c

/-- Whether a text is at its end or goes on with a line break. -/
def atBreak : Text → Bool
  | [] => true
  | c :: _ => isBreak c

/-- Whether a text is at its end or goes on with a blank or a line break, but not a tab. -/
def atBlank : Text → Bool
  | [] => true
  | c :: _ => c == ' ' || isBreak c

/-- Whether a text goes on with the mark between two documents. -/
def atMarker : Text → Bool
  | '-' :: '-' :: '-' :: rest => atGap rest
  | '.' :: '.' :: '.' :: rest => atGap rest
  | _ => false

/-! ## Cursors -/

/-- A place in a source. -/
structure Cursor where
  /-- What is still to be read. -/
  rest : Text
  /-- How many code points have been read. -/
  index : Nat := 0
  /-- How many line breaks have been read. -/
  line : Nat := 0
  /-- How many code points of the line have been read, the mark for the byte order not counted. -/
  column : Nat := 0
  deriving DecidableEq, Repr

namespace Cursor

/-- Reads a code point. -/
def advance (c : Cursor) : Cursor :=
  match c.rest with
  | [] => c
  | a :: rest =>
    if isBreak a then ⟨rest, c.index + 1, c.line + 1, 0⟩
    else ⟨rest, c.index + 1, c.line, if a == byteOrderMark then c.column else c.column + 1⟩

/-- Reads a number of code points. -/
def advanceBy (c : Cursor) : Nat → Cursor
  | 0 => c
  | n + 1 => c.advance.advanceBy n

/-- Reads code points as long as they are of a class. -/
def span (p : Char → Bool) (c : Cursor) : Text × Cursor :=
  let t := c.rest.takeWhile p
  (t, c.advanceBy t.length)

/-- Passes over code points as long as they are of a class. -/
def skip (p : Char → Bool) (c : Cursor) : Cursor := (c.span p).2

/-- Reads a line break, if one is there. The two ways to break a line that are not separators of their own count as the first. -/
def takeBreak (c : Cursor) : Text × Cursor :=
  match c.rest with
  | a :: _ =>
    if a == '\n' || a == '\x85' then (['\n'], c.advance)
    else if isBreak a then ([a], c.advance)
    else ([], c)
  | [] => ([], c)

/-- Whether a given code point comes next. -/
def isAt (a : Char) (c : Cursor) : Bool := c.rest.head? == some a

end Cursor

end CriticalCss.Yaml
