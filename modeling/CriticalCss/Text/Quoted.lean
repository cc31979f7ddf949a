import CriticalCss.Unicode.Printable

/-!
# Quoted texts

The form in which messages show a text or a run of bytes: between single quotes, or between double quotes when the text holds a
single quote and no double one. The quote in use and the backslash are escaped, and so is every code point without a visible form.
-/

namespace CriticalCss.Text

/-- The quote that a text is put between. -/
def quoteFor (t : Text) : Char := if t.elem '\x27' && !t.elem '\x22' then '\x22' else '\x27'

/-- One code point of a quoted text. -/
def quoteChar (quote c : Char) : Text :=
  let n := c.toNat
  if c = quote ∨ c = '\\' then ['\\', c]
  else if c = '\t' then ['\\', 't']
  else if c = '\n' then ['\\', 'n']
  else if c = '\r' then ['\\', 'r']
  else if Unicode.isPrintable n then [c]
  else if n < 0x100 then '\\' :: 'x' :: hexadecimal 2 n
  else if n < 0x10000 then '\\' :: 'u' :: hexadecimal 4 n
  else '\\' :: 'U' :: hexadecimal 8 n

/-- A text between quotes. -/
def quoted (t : Text) : Text :=
  let quote := quoteFor t
  quote :: (t.flatMap (quoteChar quote) ++ [quote])

/-- A run of bytes between quotes, after the letter b; bytes outside the visible part of ASCII are escaped. -/
def quotedBytes (bytes : List UInt8) : Text :=
  let t : Text := bytes.map fun b => Char.ofNat b.toNat
  let quote := quoteFor t
  let body := t.flatMap fun c => if c.toNat < 0x80 then quoteChar quote c else '\\' :: 'x' :: hexadecimal 2 c.toNat
  'b' :: quote :: (body ++ [quote])

end CriticalCss.Text
