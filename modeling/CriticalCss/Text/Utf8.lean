import CriticalCss.Text.Basic

/-!
# UTF-8

Reading bytes as text. A run of bytes is cut into pieces: each piece is one well-encoded character, or the longest beginning of one
that the bytes do not continue. Strict reading refuses the first such beginning and says where it stands; tolerant reading puts one
replacement character in its place.
-/

namespace CriticalCss.Utf8

/-! ## Pieces -/

/-- Why some bytes encode no character. -/
inductive Defect
  /-- No character begins with this byte. -/
  | badStart
  /-- The next byte does not continue the character. -/
  | badContinuation
  /-- The bytes end inside the character. -/
  | truncated
  deriving DecidableEq, Repr

/-- A piece of a run of bytes: a character, or a number of bytes that encode none. -/
inductive Piece
  | character (c : Char)
  | defect (size : Nat) (cause : Defect)
  deriving DecidableEq, Repr

/-- What has been read of a character whose bytes are not complete. -/
structure Pending where
  /-- The number of bytes read, none at the beginning of a character. -/
  size : Nat := 0
  /-- The number of bytes still to come. -/
  missing : Nat := 0
  /-- The bits read. -/
  value : Nat := 0
  /-- The least byte that continues the character. -/
  least : UInt8 := 0x80
  /-- The greatest byte that continues the character. -/
  greatest : UInt8 := 0xBF
  deriving DecidableEq, Repr

namespace Pending

/-- The first byte of a character. The bounds on the second byte leave out encodings longer than needed, surrogates and numbers past
the last code point. -/
def start (b : UInt8) : List Piece × Pending :=
  let n := b.toNat
  if n < 0x80 then ([.character (Char.ofNat n)], {})
  else if n < 0xC2 then ([.defect 1 .badStart], {})
  else if n < 0xE0 then ([], { size := 1, missing := 1, value := n - 0xC0 })
  else if n < 0xF0 then
    ([], { size := 1, missing := 2, value := n - 0xE0
           least := if n = 0xE0 then 0xA0 else 0x80, greatest := if n = 0xED then 0x9F else 0xBF })
  else if n < 0xF5 then
    ([], { size := 1, missing := 3, value := n - 0xF0
           least := if n = 0xF0 then 0x90 else 0x80, greatest := if n = 0xF4 then 0x8F else 0xBF })
  else ([.defect 1 .badStart], {})

/-- One more byte: it begins a character, continues the pending one, or shows that the pending one is defective and then begins
another. -/
def feed (p : Pending) (b : UInt8) : List Piece × Pending :=
  if p.size = 0 then start b
  else if p.least ≤ b ∧ b ≤ p.greatest then
    let value := p.value * 64 + (b.toNat - 0x80)
    if p.missing ≤ 1 then ([.character (Char.ofNat value)], {})
    else ([], { size := p.size + 1, missing := p.missing - 1, value := value })
  else (.defect p.size .badContinuation :: (start b).1, (start b).2)

end Pending

/-- The pieces of a run of bytes that follow what is pending. -/
def piecesFrom (p : Pending) : List UInt8 → List Piece
  | [] => if p.size = 0 then [] else [.defect p.size .truncated]
  | b :: rest => (p.feed b).1 ++ piecesFrom (p.feed b).2 rest

/-- The pieces of a run of bytes, in order. -/
def pieces (bytes : List UInt8) : List Piece := piecesFrom {} bytes

/-! ## Writing and reading -/

/-- The bytes that encode a text. -/
def encode (t : Text) : List UInt8 := t.flatMap String.utf8EncodeChar

/-- The character that stands for bytes that encode none. -/
def replacement : Char := '\uFFFD'

/-- The text of a run of bytes, with one replacement character for each defect. -/
def decodeTolerant (bytes : List UInt8) : Text :=
  (pieces bytes).map fun
    | .character c => c
    | .defect _ _ => replacement

/-- Where and why a run of bytes is no text. -/
structure Fault where
  /-- The bytes that encode no character. -/
  bytes : List UInt8
  /-- Their offset from the beginning. -/
  offset : Nat
  cause : Defect
  deriving DecidableEq, Repr

/-- Reads pieces up to the first defect. -/
def decodeFrom (bytes : List UInt8) (offset : Nat) : List Piece → Except Fault Text
  | [] => .ok []
  | .character c :: rest => do
    let size := (String.utf8EncodeChar c).length
    let t ← decodeFrom (bytes.drop size) (offset + size) rest
    return c :: t
  | .defect size cause :: _ => .error ⟨bytes.take size, offset, cause⟩

/-- The text of a run of bytes that is to be well encoded throughout. Bytes that end inside a character are reported from the
beginning of that character, because by then all before them has been delivered. -/
def decode (bytes : List UInt8) : Except Fault Text :=
  match decodeFrom bytes 0 (pieces bytes) with
  | .error fault => .error (if fault.cause = .truncated then { fault with offset := 0 } else fault)
  | .ok t => .ok t

/-! ## Reporting -/

/-- The name of a defect. -/
def Defect.message : Defect → String
  | .badStart => "invalid start byte"
  | .badContinuation => "invalid continuation byte"
  | .truncated => "unexpected end of data"

/-- A byte as two hexadecimal digits. -/
def hexByte (b : UInt8) : String := String.ofList (Text.hexadecimal 2 b.toNat)

/-- What is wrong with the bytes, and where. -/
def Fault.message (fault : Fault) : String :=
  match fault.bytes with
  | [b] =>
    "'utf-8' codec can't decode byte 0x" ++ hexByte b ++ " in position " ++ toString fault.offset ++ ": " ++
      fault.cause.message
  | bytes =>
    "'utf-8' codec can't decode bytes in position " ++ toString fault.offset ++ "-" ++
      toString (fault.offset + bytes.length - 1) ++ ": " ++ fault.cause.message

end CriticalCss.Utf8
