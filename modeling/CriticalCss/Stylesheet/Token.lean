import CriticalCss.Text.Utf8

/-!
# Tokens of a stylesheet

The source bytes cut into words, strings, comments and single marks. All marks of the grammar are ASCII, so bytes outside ASCII belong
to words. A token knows its range and the line it starts in; blanks leave nothing but a distance between two tokens.
-/

namespace CriticalCss

/-- What a token is. -/
inductive TokenKind
  /-- Letters, digits, hyphens, low lines, escapes and everything outside ASCII. -/
  | word
  /-- An at sign and the word behind it. -/
  | atWord
  | string
  /-- A comment with an end mark. -/
  | comment
  /-- A comment that ends with its line. -/
  | lineComment
  /-- Any other byte. -/
  | mark (c : Char)
  deriving DecidableEq, Repr

/-- A token with its range and the number of line breaks before it. -/
structure Token where
  kind : TokenKind
  start : Nat
  stop : Nat
  row : Nat
  deriving DecidableEq, Repr

namespace Token

/-- Whether a token is a comment of either form. -/
def isComment (t : Token) : Bool := t.kind == .comment || t.kind == .lineComment

/-- Whether a token is a given mark. -/
def isMark (c : Char) (t : Token) : Bool := t.kind == .mark c

/-! ## Classes of bytes -/

/-- The character of an ASCII byte. -/
def charOf (b : UInt8) : Char := Char.ofNat b.toNat

/-- Whether a byte is a blank. -/
def isBlankByte (b : UInt8) : Bool := b == 0x20 || (0x09 ≤ b && b ≤ 0x0D)

/-- Whether a byte may stand in a word. -/
def isWordByte (b : UInt8) : Bool :=
  0x80 ≤ b || (charOf b).isAlphanum || charOf b == '-' || charOf b == '_'

/-- Whether a byte may stand in the name of an at-rule. -/
def isAtByte (b : UInt8) : Bool := b < 0x80 && ((charOf b).isAlpha || charOf b == '-' || charOf b == '_')

/-! ## Sizes of tokens -/

/-- The size of a word. A backslash takes the next byte with it. -/
def wordSize : List UInt8 → Nat
  | [] => 0
  | [b] => if isWordByte b || charOf b == '\\' then 1 else 0
  | b :: c :: rest =>
    if charOf b == '\\' then 2 + wordSize rest
    else if isWordByte b then 1 + wordSize (c :: rest) else 0

/-- The size of what is left of a string, its closing quote included. A backslash takes the next byte with it. -/
def stringSize (quote : UInt8) : List UInt8 → Nat
  | [] => 0
  | [_] => 1
  | b :: c :: rest =>
    if charOf b == '\\' then 2 + stringSize quote rest
    else if b == quote then 1 else 1 + stringSize quote (c :: rest)

/-- The size of what is left of a comment, its end mark included. -/
def commentSize : List UInt8 → Nat
  | [] => 0
  | [_] => 1
  | b :: c :: rest => if charOf b == '*' && charOf c == '/' then 2 else 1 + commentSize (c :: rest)

/-- The size of what is left of a line. -/
def lineSize (bytes : List UInt8) : Nat := (bytes.takeWhile (· != 0x0A)).length

/-- Whether two slashes begin a word rather than a comment: between parentheses, where an address may begin with them. -/
def slashesBeginWord (depth : Nat) (rest : List UInt8) : Bool :=
  depth != 0 && match rest with
    | b :: _ => !isBlankByte b
    | [] => false

/-- The token that begins with a byte, and its size. The depth is the number of open parentheses. -/
def first (depth : Nat) (b : UInt8) (rest : List UInt8) : TokenKind × Nat :=
  match charOf b, rest with
  | '/', c :: rest' =>
    if charOf c == '*' then (.comment, 2 + commentSize rest')
    else if charOf c == '/' && !slashesBeginWord depth rest' then (.lineComment, 2 + lineSize rest')
    else (.mark '/', 1)
  | '\x22', _ => (.string, 1 + stringSize b rest)
  | '\x27', _ => (.string, 1 + stringSize b rest)
  | '@', _ => (.atWord, 1 + (rest.takeWhile isAtByte).length)
  | c, _ =>
    match wordSize (b :: rest) with
    | 0 => (.mark c, 1)
    | size => (.word, size)

/-! ## Cutting -/

/-- The depth of parentheses behind a token. -/
def depthAfter (depth : Nat) : TokenKind → Nat
  | .mark '(' => depth + 1
  | .mark ')' => depth - 1
  | _ => depth

/-- The tokens of some bytes. The position and the row are those of the first byte; `skip` bytes of a token that is already cut are
still to go. -/
def cut (position row depth skip : Nat) : List UInt8 → List Token
  | [] => []
  | b :: rest =>
    let row' := if b == 0x0A then row + 1 else row
    match skip with
    | n + 1 => cut (position + 1) row' depth n rest
    | 0 =>
      if isBlankByte b then cut (position + 1) row' depth 0 rest
      else
        let (kind, size) := first depth b rest
        ⟨kind, position, position + size, row⟩ :: cut (position + 1) row' (depthAfter depth kind) (size - 1) rest

/-- The tokens of a stylesheet. A mark for the byte order at its beginning is none. -/
def ofSource : List UInt8 → List Token
  | 0xEF :: 0xBB :: 0xBF :: rest => cut 3 0 0 0 rest
  | bytes => cut 0 0 0 0 bytes

end Token

end CriticalCss
