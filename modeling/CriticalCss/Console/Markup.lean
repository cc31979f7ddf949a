import CriticalCss.Host
import CriticalCss.Unicode.Case

/-!
# Marked text

Text for the console can hold tags in square brackets that ask for colours; a backslash before a tag makes it plain text. Without
colours a tag leaves nothing behind. Between the tags a name between two colons can stand for a symbol, and nothing protects a text from
that. `Markup.escape` protects the tags of a text that comes from elsewhere, `Markup.shown` is what a marked text looks like.
-/

namespace CriticalCss.Markup

/-! ## Escaping -/

/-- Whether a code point may begin a tag, after its bracket. -/
def beginsTag (c : Char) : Bool := c.isLower || c == '#' || c == '/' || c == '@'

/-- Whether a text goes on with a tag, its opening bracket apart: no other bracket opens before one closes. -/
def isTag : Text → Bool
  | [] => false
  | c :: rest => beginsTag c && (rest.dropWhile fun d => d != '[' && d != ']').head? == some ']'

/-- A run of backslashes. -/
def backslashes (n : Nat) : Text := List.replicate n '\\'

/-- Escapes the tags of a text that comes after a number of backslashes. -/
def escapeAfter : Nat → Text → Text
  | n, [] => backslashes n
  | n, c :: rest =>
    if c = '\\' then escapeAfter (n + 1) rest
    else if c = '[' ∧ isTag rest then backslashes (2 * n + 1) ++ c :: escapeAfter 0 rest
    else backslashes n ++ c :: escapeAfter 0 rest

/-- A text in which every tag is escaped. A single backslash at the end is written twice. -/
def escape (t : Text) : Text :=
  let escaped := escapeAfter 0 t
  match escaped.reverse with
  | '\\' :: '\\' :: _ => escaped
  | '\\' :: _ => escaped ++ ['\\']
  | _ => escaped

/-! ## Tags -/

/-- What is being read of a marked text. -/
inductive Place
  /-- Plain text, after a number of backslashes. -/
  | text (before : Nat)
  /-- The inside of a tag. -/
  | tag
  /-- The inside of an escaped tag, which is plain text. -/
  | escapedTag

/-- The runs of plain text in a marked text, from a place on, where `run` is what has been read of the current one. A tag ends a run;
backslashes before a tag are a run of their own, and so is a tag that is escaped. A backslash before a bracket that opens no tag is left
out. -/
def runsFrom : Place → (run : Text) → Text → List Text
  | .text n, run, [] => [run ++ backslashes n]
  | _, run, [] => [run]
  | .tag, _, c :: rest => runsFrom (if c = ']' then .text 0 else .tag) [] rest
  | .escapedTag, run, c :: rest =>
    if c = ']' then (run ++ [c]) :: runsFrom (.text 0) [] rest else runsFrom .escapedTag (run ++ [c]) rest
  | .text n, run, c :: rest =>
    if c = '\\' then runsFrom (.text (n + 1)) run rest
    else if c = '[' then
      if isTag rest then
        if n % 2 = 0 then run :: backslashes (n / 2) :: runsFrom .tag [] rest
        else run :: backslashes (n / 2) :: runsFrom .escapedTag [c] rest
      else runsFrom (.text 0) (run ++ backslashes (n - 1) ++ [c]) rest
    else runsFrom (.text 0) (run ++ backslashes n ++ [c]) rest

/-- The runs of plain text in a marked text. -/
def runs (t : Text) : List Text := runsFrom (.text 0) [] t

/-! ## Symbols -/

/-- The word between the colon that precedes a text and the next one, if there is one and no blank comes before it. -/
def code? (t : Text) : Option Text :=
  let word := t.takeWhile fun c => c != ':' && !Text.isBlank c
  if (t.drop word.length).head? = some ':' then some word else none

/-- What may end a code, and what it puts behind the symbol: it asks for the symbol as a letter or as a picture. -/
def variants : List (Text × Text) := [("-text".toList, ['\uFE0E']), ("-emoji".toList, ['\uFE0F'])]

section

variable [Host]

/-- The symbol that a word between two colons stands for. The case of its letters does not count. -/
def symbolOf? (word : Text) : Option Text :=
  match variants.find? (·.1.isSuffixOf word) with
  | some (ending, mark) => (Host.symbol? (Unicode.lower (word.take (word.length - ending.length)))).map (· ++ mark)
  | none => Host.symbol? (Unicode.lower word)

/-- A run of plain text with its symbols, where some code points are still to be left out. A word that stands for nothing stays with its
two colons, and neither of them begins or ends another one. -/
def symbolsFrom : (skip : Nat) → Text → Text
  | _, [] => []
  | skip + 1, _ :: rest => symbolsFrom skip rest
  | 0, c :: rest =>
    if c = ':' then
      match code? rest with
      | some word => (symbolOf? word).getD (':' :: (word ++ [':'])) ++ symbolsFrom (word.length + 1) rest
      | none => c :: symbolsFrom 0 rest
    else c :: symbolsFrom 0 rest

/-- A run of plain text with its symbols. -/
def withSymbols (t : Text) : Text := symbolsFrom 0 t

/-! ## Appearance -/

/-- Whether a code point moves the cursor or rings, and so is left out. -/
def isControl (c : Char) : Bool :=
  c == '\x07' || c == '\x08' || c == '\x0B' || c == '\x0C' || c == '\r'

/-- What a marked text looks like. -/
def shown (t : Text) : Text := ((runs t).flatMap withSymbols).filter fun c => !isControl c

/-- A text with blanks for its tabs, from a column on. Tabs lead to the next multiple of eight. -/
def untabFrom : Nat → Text → Text
  | _, [] => []
  | column, c :: rest =>
    if c = '\t' then
      let width := 8 - column % 8
      List.replicate width ' ' ++ untabFrom (column + width) rest
    else c :: untabFrom (if c = '\n' then 0 else column + 1) rest

/-- A marked text as it looks on the console. -/
def laidOut (t : Text) : Text := untabFrom 0 (shown t)

/-- A line, or several, as a marked text is printed. -/
def printed (t : Text) : Text := laidOut t ++ ['\n']

end

end CriticalCss.Markup
