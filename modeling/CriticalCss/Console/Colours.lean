import CriticalCss.Text.Basic

/-!
# Colour sequences

A terminal takes its colours from sequences that begin with the escape character and a square bracket, go on with numbers and end with
a letter. Where nothing is to be coloured they are left out, also from texts that come from elsewhere.
-/

namespace CriticalCss.Colours

/-- What has been read of a sequence. -/
inductive Seen
  | nothing
  | escape
  /-- The escape, the bracket and some numbers. -/
  | numbers (t : Text)

namespace Seen

/-- The text that has been read. -/
def text : Seen → Text
  | .nothing => []
  | .escape => ['\x1B']
  | .numbers t => '\x1B' :: '[' :: t

end Seen

/-- Whether a code point may stand between the bracket and the letter. -/
def isNumberPart (c : Char) : Bool := c.isDigit || c == ';' || c == '?'

/-- What is left of a text, after what has been read of a sequence. -/
def leftFrom : Seen → Text → Text
  | seen, [] => seen.text
  | seen, c :: rest =>
    if c = '\x1B' then seen.text ++ leftFrom .escape rest
    else match seen with
      | .nothing => c :: leftFrom .nothing rest
      | .escape => if c = '[' then leftFrom (.numbers []) rest else '\x1B' :: c :: leftFrom .nothing rest
      | .numbers t =>
        if isNumberPart c then leftFrom (.numbers (t ++ [c])) rest
        else if c.isAlpha then leftFrom .nothing rest
        else seen.text ++ c :: leftFrom .nothing rest

/-- A text without its colour sequences. -/
def without (t : Text) : Text := leftFrom .nothing t

end CriticalCss.Colours
