import CriticalCss.Json.Basic
import CriticalCss.Decimal.Reading
import CriticalCss.Text.Utf8

/-!
# Reading JSON

`Json.read` takes a whole text to the value it writes, or to nothing when it writes none. Of members with the same key the last one
counts, in the place of the first. The names of the infinities and of the undefined number are read as numbers.
-/

namespace CriticalCss.Json

/-- Whether a code point may stand between the parts of a value. -/
def isGap (c : Char) : Bool := c == ' ' || c == '\t' || c == '\n' || c == '\r'

/-- The text without the gap it begins with. -/
def skipGap (t : Text) : Text := t.dropWhile isGap

/-! ## Texts -/

/-- The code point of a short escape. -/
def shortEscape? (c : Char) : Option Char :=
  match c.toNat with
  | 0x22 => some '\x22'
  | 0x5C => some '\\'
  | 0x2F => some '/'
  | 0x62 => some '\x08'
  | 0x66 => some '\x0C'
  | 0x6E => some '\n'
  | 0x72 => some '\r'
  | 0x74 => some '\t'
  | _ => none

/-- What a backslash and the code points after it stand for, and what follows them: a short escape, sixteen bits, or two halves of
sixteen bits that make one code point. In the place of a half alone, which no text holds, stands the replacement character. -/
def readEscape : Text → Option (Char × Text)
  | 'u' :: a :: b :: c :: d :: rest =>
    match Text.hexNumber? [a, b, c, d] with
    | none => none
    | some n =>
      if 0xD800 ≤ n ∧ n < 0xDC00 then
        match rest with
        | '\\' :: 'u' :: e :: f :: g :: h :: rest' =>
          match Text.hexNumber? [e, f, g, h] with
          | some m =>
            if 0xDC00 ≤ m ∧ m < 0xE000 then some (Char.ofNat (0x10000 + (n - 0xD800) * 0x400 + (m - 0xDC00)), rest')
            else some (Utf8.replacement, rest)
          | none => none
        | _ => some (Utf8.replacement, rest)
      else if 0xDC00 ≤ n ∧ n < 0xE000 then some (Utf8.replacement, rest)
      else some (Char.ofNat n, rest)
  | c :: rest => (shortEscape? c).map (·, rest)
  | [] => none

/-- The code points up to the closing quote, and what follows it. -/
def readQuoted : Nat → Text → Option (Text × Text)
  | 0, _ => none
  | _ + 1, [] => none
  | fuel + 1, c :: rest =>
    if c = '\x22' then some ([], rest)
    else if c = '\\' then
      match readEscape rest with
      | some (d, rest') => (readQuoted fuel rest').map fun r => (d :: r.1, r.2)
      | none => none
    else if c.toNat < 0x20 then none
    else (readQuoted fuel rest).map fun r => (c :: r.1, r.2)

/-! ## Numbers -/

/-- The exponent of a number, with its sign, and what follows it. A mark that no digit follows is not part of the number. -/
def readExponent (t : Text) : Option Int × Text :=
  match t with
  | c :: rest =>
    if c = 'e' ∨ c = 'E' then
      let (negative, digits) : Bool × Text := match rest with
        | '-' :: more => (true, more)
        | '+' :: more => (false, more)
        | more => (false, more)
      match Text.decimalNumber? (digits.takeWhile Char.isDigit), digits.takeWhile Char.isDigit with
      | some n, _ :: _ => (some (if negative then -(n : Int) else n), digits.dropWhile Char.isDigit)
      | _, _ => (none, t)
    else (none, t)
  | [] => (none, t)

/-- The fraction of a number and what follows it. A point that no digit follows is not part of the number. -/
def readFraction (t : Text) : Text × Text :=
  match t with
  | '.' :: rest =>
    match rest.takeWhile Char.isDigit with
    | [] => ([], t)
    | digits => (digits, rest.dropWhile Char.isDigit)
  | _ => ([], t)

/-- The number without its sign, and what follows it. A zero in front ends the digits before the point. -/
def readUnsigned (negative : Bool) (t : Text) : Option (Json × Text) :=
  let whole := match t with
    | '0' :: _ => ['0']
    | _ => t.takeWhile Char.isDigit
  match whole with
  | [] => none
  | _ =>
    let (fraction, rest) := readFraction (t.drop whole.length)
    let (exponent, rest) := readExponent rest
    match Text.decimalNumber? (whole ++ fraction) with
    | none => none
    | some n =>
      if fraction.isEmpty && exponent.isNone then some (.int (if negative then -(n : Int) else n), rest)
      else some (.real (Decimal.toFloat negative n (exponent.getD 0 - fraction.length)), rest)

/-! ## Values -/

/-- What follows a word that a text begins with. -/
def after? (word t : Text) : Option Text := if word.isPrefixOf t then some (t.drop word.length) else none

/-- A value that begins with neither quote nor bracket, and what follows it. -/
def readScalar (t : Text) : Option (Json × Text) :=
  let named (word : String) (value : Json) : Option (Json × Text) := (after? word.toList t).map (value, ·)
  named "null" .null <|> named "true" (.bool true) <|> named "false" (.bool false) <|>
  named "NaN" (.real (0.0 / 0.0)) <|> named "Infinity" (.real (1.0 / 0.0)) <|> named "-Infinity" (.real (-1.0 / 0.0)) <|>
  (match t with
    | '-' :: rest => readUnsigned true rest
    | _ => readUnsigned false t)

mutual

/-- A value and what follows it. The fuel bounds the number of calls; of two calls, one within the other, at least one takes a code
point. -/
def readValue : Nat → Text → Option (Json × Text)
  | 0, _ => none
  | fuel + 1, t =>
    match t with
    | [] => none
    | c :: rest =>
      if c = '\x22' then (readQuoted fuel rest).map fun r => (.text r.1, r.2)
      else if c = '[' then
        match skipGap rest with
        | ']' :: rest' => some (.list [], rest')
        | rest' => (readItems fuel rest').map fun r => (.list r.1, r.2)
      else if c = '{' then
        match skipGap rest with
        | '}' :: rest' => some (.object [], rest')
        | rest' => (readMembers fuel [] rest').map fun r => (.object r.1, r.2)
      else readScalar t

/-- The items of a list up to its closing bracket, and what follows it. -/
def readItems : Nat → Text → Option (List Json × Text)
  | 0, _ => none
  | fuel + 1, t =>
    match readValue fuel t with
    | none => none
    | some (item, rest) =>
      match skipGap rest with
      | ']' :: rest' => some ([item], rest')
      | ',' :: rest' => (readItems fuel (skipGap rest')).map fun r => (item :: r.1, r.2)
      | _ => none

/-- The members of an object up to its closing brace, put after those read before, and what follows it. -/
def readMembers : Nat → List (Text × Json) → Text → Option (List (Text × Json) × Text)
  | 0, _, _ => none
  | fuel + 1, before, t =>
    match t with
    | [] => none
    | c :: rest =>
      if c = '\x22' then
        match readQuoted fuel rest with
        | none => none
        | some (key, rest₁) =>
          match skipGap rest₁ with
          | ':' :: rest₂ =>
            match readValue fuel (skipGap rest₂) with
            | none => none
            | some (value, rest₃) =>
              match skipGap rest₃ with
              | '}' :: rest₄ => some (Ledger.put key value before, rest₄)
              | ',' :: rest₄ => readMembers fuel (Ledger.put key value before) (skipGap rest₄)
              | _ => none
          | _ => none
      else none

end

/-- The value that a whole text writes. -/
def read (t : Text) : Option Json :=
  match readValue (2 * t.length + 2) (skipGap t) with
  | some (value, rest) => if (skipGap rest).isEmpty then some value else none
  | none => none

/-! ## Long numbers -/

/-- Whether a code point may stand in a number. -/
def isNumberPart (c : Char) : Bool := c.isDigit || c == '-' || c == '+' || c == '.' || c == 'e' || c == 'E'

/-- A text with blanks in the place of everything that is no part of a number. Nothing between quotes is. -/
def numbersFrom : (quoted : Bool) → Text → Text
  | true, '\\' :: _ :: rest => ' ' :: numbersFrom true rest
  | quoted, c :: rest =>
    if c = '\x22' then ' ' :: numbersFrom (!quoted) rest
    else (if quoted || !isNumberPart c then ' ' else c) :: numbersFrom quoted rest
  | _, [] => []

/-- Whether an integer with too many digits to be read stands in a text. -/
def hasLongInteger (t : Text) : Bool :=
  (Text.splitAt ' ' (numbersFrom false t)).any fun number =>
    let digits := if number.head? == some '-' then number.drop 1 else number
    digits.all Char.isDigit && Text.digitLimit < digits.length

end CriticalCss.Json
