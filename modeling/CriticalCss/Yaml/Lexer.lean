import CriticalCss.Yaml.Scalar
import CriticalCss.Yaml.Token
import CriticalCss.Text.Utf8

/-!
# Cutting a source into tokens

A key needs no mark of its own: that something was a key shows only when the colon behind it is read. So the lexer remembers for each
level of brackets and braces where such a key may have begun, and when the colon comes, puts the tokens that say so in front of it. A
key has to end on the line it begins on, and within 1024 code points.
-/

namespace CriticalCss.Yaml

/-- A place where a key without a mark may have begun. -/
structure PossibleKey where
  /-- The depth of brackets and braces. -/
  level : Nat
  /-- The number of tokens before it. -/
  position : Nat
  /-- Whether nothing but a key can stand here. -/
  required : Bool
  place : Cursor

/-- The state of the lexer. -/
structure Lexer where
  cursor : Cursor
  /-- The tokens, from last to first. -/
  tokens : List Token := []
  /-- The depth of brackets and braces. -/
  level : Nat := 0
  /-- The column of the innermost block, before the first column if there is none. -/
  indent : Int := -1
  /-- The columns of the blocks around it. -/
  outer : List Int := []
  /-- Whether a key without a mark may begin here. -/
  allowKey : Bool := true
  possible : List PossibleKey := []

namespace Lexer

/-! ## Steps -/

/-- Adds a token. -/
def push (t : Token) (s : Lexer) : Lexer := { s with tokens := t :: s.tokens }

/-- Puts a token behind the first tokens. -/
def insertAt (position : Nat) (t : Token) (s : Lexer) : Lexer :=
  let later := s.tokens.length - position
  { s with tokens := s.tokens.take later ++ t :: s.tokens.drop later }

/-- Reads a number of code points. -/
def forward (n : Nat) (s : Lexer) : Lexer := { s with cursor := s.cursor.advanceBy n }

/-- The column of the cursor. -/
def column (s : Lexer) : Int := s.cursor.column

/-- Whether the source is between brackets or braces. -/
def inFlow (s : Lexer) : Bool := s.level != 0

/-- Passes over blanks, comments and line breaks. After a line break a key may begin, unless between brackets or braces. -/
def skipToToken : Nat → Lexer → Lexer
  | 0, s => s
  | fuel + 1, s =>
    let c := s.cursor.skip (· == ' ')
    let c := if c.isAt '#' then c.skip (!isBreak ·) else c
    match c.takeBreak with
    | ([], c) => { s with cursor := c }
    | (_, c) => skipToToken fuel { s with cursor := c, allowKey := s.allowKey || !s.inFlow }

/-- Forgets the places where a key can no longer have begun. -/
def dropStale (s : Lexer) : Except Fault Lexer :=
  let stale (k : PossibleKey) : Bool := k.place.line != s.cursor.line || s.cursor.index - k.place.index > 1024
  if s.possible.any fun k => stale k && k.required then .error .malformed
  else .ok { s with possible := s.possible.filter (!stale ·) }

/-- Forgets the place of this level where a key may have begun. -/
def dropKey (s : Lexer) : Except Fault Lexer :=
  if s.possible.any fun k => k.level == s.level && k.required then .error .malformed
  else .ok { s with possible := s.possible.filter (·.level != s.level) }

/-- Remembers that a key may begin here. -/
def noteKey (s : Lexer) : Except Fault Lexer :=
  if s.allowKey then do
    let t ← s.dropKey
    let key : PossibleKey := ⟨s.level, s.tokens.length, !s.inFlow && s.indent == s.column, s.cursor⟩
    return { t with possible := t.possible ++ [key] }
  else .ok s

/-- Ends the blocks that are indented more than a column. Between brackets and braces no block ends. -/
def unwind (column : Int) (s : Lexer) : Lexer :=
  if s.inFlow then s else go s.outer s
where
  /-- Ends one block after the other. -/
  go : List Int → Lexer → Lexer
    | [], s => s
    | i :: outer, s => if s.indent > column then go outer (push .blockEnd { s with indent := i, outer := outer }) else s

/-- Begins a block at a column, unless one has begun there. -/
def beginBlock (column : Int) (s : Lexer) : Bool × Lexer :=
  if s.indent < column then (true, { s with outer := s.indent :: s.outer, indent := column }) else (false, s)

/-- Begins a block at the cursor for an indicator. Between brackets and braces an indicator begins none. -/
def blockAtIndicator (start : Token) (s : Lexer) : Except Fault Lexer :=
  if s.inFlow then .ok s
  else if !s.allowKey then .error .malformed
  else match s.beginBlock s.column with
    | (true, s) => .ok (s.push start)
    | (false, s) => .ok s

/-! ## Tokens of one kind each -/

/-- Leaves all blocks, as every mark of a document does. -/
def leaveBlocks (s : Lexer) : Except Fault Lexer := do
  let s ← (s.unwind (-1)).dropKey
  return { s with allowKey := false }

/-- The end of the source. -/
def fetchEnd (s : Lexer) : Except Fault Lexer := do
  let s ← s.leaveBlocks
  return push .streamEnd { s with possible := [] }

/-- A mark between documents. -/
def fetchMarker (t : Token) (s : Lexer) : Except Fault Lexer := do
  let s ← s.leaveBlocks
  return push t (s.forward 3)

/-- The beginning of a collection between brackets or braces. -/
def fetchOpening (t : Token) (s : Lexer) : Except Fault Lexer := do
  let s ← s.noteKey
  return push t (forward 1 { s with level := s.level + 1, allowKey := true })

/-- The end of a collection between brackets or braces. -/
def fetchClosing (t : Token) (s : Lexer) : Except Fault Lexer := do
  let s ← s.dropKey
  return push t (forward 1 { s with level := s.level - 1, allowKey := false })

/-- A comma between the parts of a collection. -/
def fetchComma (s : Lexer) : Except Fault Lexer := do
  let s ← dropKey { s with allowKey := true }
  return push .flowEntry (s.forward 1)

/-- The hyphen before an item. -/
def fetchItem (s : Lexer) : Except Fault Lexer := do
  let s ← s.blockAtIndicator .blockSequenceStart
  let s ← dropKey { s with allowKey := true }
  return push .blockEntry (s.forward 1)

/-- The question mark before a key. -/
def fetchKey (s : Lexer) : Except Fault Lexer := do
  let s ← s.blockAtIndicator .blockMappingStart
  let s ← dropKey { s with allowKey := !s.inFlow }
  return push .key (s.forward 1)

/-- The colon behind a key. If a key without a mark was possible, it was one. -/
def fetchValue (s : Lexer) : Except Fault Lexer := do
  match s.possible.find? (·.level == s.level) with
  | some k =>
    let s := insertAt k.position .key { s with possible := s.possible.filter (·.level != s.level), allowKey := false }
    let s := if s.inFlow then s
      else match s.beginBlock k.place.column with
        | (true, s) => s.insertAt k.position .blockMappingStart
        | (false, s) => s
    return push .value (s.forward 1)
  | none =>
    let s ← s.blockAtIndicator .blockMappingStart
    let s ← dropKey { s with allowKey := !s.inFlow }
    return push .value (s.forward 1)

/-- A token that a key may begin with. -/
def fetchContent (read : Cursor → Except Fault (Token × Cursor)) (s : Lexer) : Except Fault Lexer := do
  let s ← s.noteKey
  let (t, c) ← read s.cursor
  return push t { s with allowKey := false, cursor := c }

/-! ## Names and tags -/

/-- Whether a name may end before a text. -/
def endsName : Text → Bool
  | [] => true
  | c :: _ => isGap c || ['?', ':', ',', ']', '\x7d', '%', '@', '\x60'].elem c

/-- The name behind an indicator. -/
def readName (c : Cursor) : Except Fault (Text × Cursor) :=
  let (name, c) := c.advance.span isNamePart
  if name.isEmpty || !endsName c.rest then .error .malformed else .ok (name, c)

/-- Whether a code point may stand in the text of a tag, percent signs included. -/
def isTagPart (c : Char) : Bool :=
  c.isAlphanum || "-;/?:@&=+$,_.!~*'()[]%".toList.elem c

/-- The bytes of the percent escapes that begin a text, each escape three code points long. -/
def percentBytes : Text → Option (List UInt8)
  | '%' :: a :: b :: rest =>
    match Text.hexNumber? [a, b], percentBytes rest with
    | some n, some bytes => some (UInt8.ofNat n :: bytes)
    | _, _ => none
  | '%' :: _ => none
  | _ => some []

/-- The text of a tag. Percent escapes next to each other are read together. -/
def tagText : Nat → Cursor → Except Fault (Text × Cursor)
  | 0, c => .ok ([], c)
  | fuel + 1, c =>
    match c.rest with
    | '%' :: _ =>
      match percentBytes c.rest with
      | none => .error .malformed
      | some bytes => match Utf8.decode bytes with
        | .error _ => .error .malformed
        | .ok t => do
          let (more, c) ← tagText fuel (c.advanceBy (3 * bytes.length))
          return (t ++ more, c)
    | a :: _ =>
      if isTagPart a then do
        let (more, c) ← tagText fuel c.advance
        return (a :: more, c)
      else .ok ([], c)
    | [] => .ok ([], c)

/-- The text of a tag, which may not be empty. -/
def readTagText (c : Cursor) : Except Fault (Text × Cursor) :=
  if (c.rest.head?.map isTagPart).getD false then tagText (c.rest.length + 1) c else .error .malformed

/-- The handle of a tag: an exclamation mark, or a name between two of them. -/
def readHandle (c : Cursor) : Except Fault (Text × Cursor) :=
  match c.rest with
  | '!' :: ' ' :: _ => .ok (['!'], c.advance)
  | '!' :: rest =>
    let name := rest.takeWhile isNamePart
    match rest.drop name.length with
    | '!' :: _ => .ok ('!' :: (name ++ ['!']), c.advanceBy (name.length + 2))
    | _ => .error .malformed
  | _ => .error .malformed

/-- Whether another exclamation mark comes before the next gap that is no tab. -/
def hasHandle (rest : Text) : Bool := (rest.takeWhile fun a => !(a == ' ' || isBreak a)).elem '!'

/-- The tag that begins here. -/
def readTag (c : Cursor) : Except Fault (Token × Cursor) := do
  let (t, c) ← match c.rest.drop 1 with
    | '<' :: _ => do
      let (suffix, c) ← readTagText (c.advanceBy 2)
      if c.isAt '>' then pure (Token.tag none suffix, c.advance) else Except.error .malformed
    | rest =>
      if atGap rest then pure (Token.tag none ['!'], c.advance)
      else do
        let (handle, c) ← if hasHandle rest then readHandle c else pure (['!'], c.advance)
        let (suffix, c) ← readTagText c
        pure (Token.tag (some handle) suffix, c)
  if atBlank c.rest then return (t, c) else .error .malformed

/-! ## Directives -/

/-- A number, which has to have a digit, and not too many of them. -/
def readNumber (c : Cursor) : Except Fault (Text × Cursor) :=
  let (digits, c) := c.span Char.isDigit
  if digits.isEmpty then .error .malformed
  else if Text.digitLimit < digits.length then .error (.tooManyDigits digits.length)
  else .ok (digits, c)

/-- Goes on if the source is at a blank, a line break or the end. -/
def atBlankOr (c : Cursor) (a : α) : Except Fault (α × Cursor) := if atBlank c.rest then .ok (a, c) else .error .malformed

/-- The version of a document. -/
def readVersion (c : Cursor) : Except Fault (Directive × Cursor) := do
  let (major, c) ← readNumber (c.skip (· == ' '))
  if c.isAt '.' then
    let (_, c) ← readNumber c.advance
    atBlankOr c (.version major)
  else .error .malformed

/-- A handle and what it stands for. -/
def readTagDirective (c : Cursor) : Except Fault (Directive × Cursor) := do
  let (handle, c) ← readHandle (c.skip (· == ' '))
  if c.isAt ' ' then
    let (replacement, c) ← readTagText (c.skip (· == ' '))
    atBlankOr c (.tag handle replacement)
  else .error .malformed

/-- The directive that begins here, and the rest of its line. -/
def readDirective (c : Cursor) : Except Fault (Token × Cursor) := do
  let (name, c) := c.advance.span isNamePart
  if name.isEmpty || !atBlank c.rest then .error .malformed
  else
    let (d, c) ← if name == "YAML".toList then readVersion c
      else if name == "TAG".toList then readTagDirective c
      else pure (Directive.other, c.skip (!isBreak ·))
    return (.directive d, ← ignoredLine c)

/-- A directive. -/
def fetchDirective (s : Lexer) : Except Fault Lexer := do
  let s ← s.leaveBlocks
  let (t, c) ← readDirective s.cursor
  return push t { s with cursor := c }

/-! ## Scalars -/

/-- A block scalar. -/
def fetchBlockScalar (folded : Bool) (s : Lexer) : Except Fault Lexer := do
  let s ← dropKey { s with allowKey := true }
  let (t, c) ← blockScalar folded s.indent s.cursor
  return push (.scalar t false) { s with cursor := c }

/-- A plain scalar. -/
def fetchPlain (s : Lexer) : Except Fault Lexer := do
  let s ← s.noteKey
  let scalar := plainScalar s.inFlow (s.indent + 1) s.cursor
  return push (.scalar scalar.text true) { s with allowKey := scalar.crossed, cursor := scalar.after }

/-- Whether a plain scalar may begin with a text. -/
def beginsPlain (flow : Bool) : Text → Bool
  | [] => false
  | c :: rest =>
    (!isGap c && !"-?:,[]#&*!|>'%@".toList.elem c && !(['\x7b', '\x7d', '\x22', '\x60'].elem c)) ||
      (!atGap rest && (c == '-' || (!flow && (c == '?' || c == ':'))))

/-! ## All tokens -/

/-- Reads the next token, and the ends of the blocks before it. -/
def fetch (s : Lexer) : Except Fault Lexer := do
  let s ← (s.skipToToken (s.cursor.rest.length + 1)).dropStale
  let s := s.unwind s.column
  let rest := s.cursor.rest
  let atStart := s.cursor.column == 0
  match rest with
  | [] => s.fetchEnd
  | c :: after =>
    if atStart && c == '%' then s.fetchDirective
    else if atStart && c == '-' && atMarker rest then s.fetchMarker .documentStart
    else if atStart && c == '.' && atMarker rest then s.fetchMarker .documentEnd
    else if c == '[' then s.fetchOpening .flowSequenceStart
    else if c == '\x7b' then s.fetchOpening .flowMappingStart
    else if c == ']' then s.fetchClosing .flowSequenceEnd
    else if c == '\x7d' then s.fetchClosing .flowMappingEnd
    else if c == ',' then s.fetchComma
    else if c == '-' && atGap after then s.fetchItem
    else if c == '?' && (s.inFlow || atGap after) then s.fetchKey
    else if c == ':' && (s.inFlow || atGap after) then s.fetchValue
    else if c == '*' then s.fetchContent fun c => do
      let (name, c) ← readName c
      return (.alias name, c)
    else if c == '&' then s.fetchContent fun c => do
      let (name, c) ← readName c
      return (.anchor name, c)
    else if c == '!' then s.fetchContent readTag
    else if c == '|' && !s.inFlow then s.fetchBlockScalar false
    else if c == '>' && !s.inFlow then s.fetchBlockScalar true
    else if c == '\x27' then s.fetchContent fun c => do
      let (t, c) ← quotedScalar false c
      return (.scalar t false, c)
    else if c == '\x22' then s.fetchContent fun c => do
      let (t, c) ← quotedScalar true c
      return (.scalar t false, c)
    else if beginsPlain s.inFlow rest then s.fetchPlain
    else .error .malformed

/-- Whether the source is read to its end. -/
def isDone (s : Lexer) : Bool := s.tokens.head? == some .streamEnd

/-- Reads tokens to the end of the source, or to the place from which it cannot be read on. -/
def run : Nat → Lexer → List Token
  | 0, s => s.tokens.reverse
  | fuel + 1, s =>
    match s.fetch with
    | .error fault => (Token.broken fault :: s.tokens).reverse
    | .ok s => if s.isDone then s.tokens.reverse else run fuel s

end Lexer

/-- The tokens of a source. A mark for the byte order at its beginning is passed over. -/
def Token.ofSource (source : Text) : List Token :=
  if source.all isAllowed then
    let start : Cursor := { rest := source }
    let cursor := if start.isAt byteOrderMark then start.advance else start
    Lexer.run (source.length + 2) { cursor := cursor }
  else [.broken .malformed]

end CriticalCss.Yaml
