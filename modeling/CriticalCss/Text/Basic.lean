/-!
# Texts, blanks and words

A text is a list of code points. Selectors, at-rule names, property names and patterns are all texts, and two of them are the same
exactly when they hold the same code points in the same order. Source text is put into canonical form by `collapse`: its words,
one space between each two of them.
-/

namespace CriticalCss

/-- A text is a list of code points. -/
abbrev Text := List Char

namespace Text

/-- A blank is a code point that separates words: the ASCII spaces and separators, next line, no-break space and the other space
characters of Unicode. The zero-width characters are not blanks. -/
def isBlank (c : Char) : Bool :=
  let n := c.toNat
  (0x09 ≤ n && n ≤ 0x0D) || (0x1C ≤ n && n ≤ 0x20) || n == 0x85 || n == 0xA0 || n == 0x1680 ||
  (0x2000 ≤ n && n ≤ 0x200A) || n == 0x2028 || n == 0x2029 || n == 0x202F || n == 0x205F || n == 0x3000

/-! ## Trimming -/

/-- The text without the blanks it begins with. -/
def trimStart (t : Text) : Text := t.dropWhile isBlank

/-- The text without the blanks it ends with. -/
def trimEnd (t : Text) : Text := (t.reverse.dropWhile isBlank).reverse

/-- The text without the blanks at either end. -/
def trim (t : Text) : Text := trimEnd (trimStart t)

/-! ## Words -/

/-- The words of a text, the longest runs without a blank, from left to right. -/
def words : Text → List Text
  | [] => []
  | [c] => if isBlank c then [] else [[c]]
  | c :: d :: rest =>
    if isBlank c then words (d :: rest)
    else if isBlank d then [c] :: words (d :: rest)
    else match words (d :: rest) with
      | [] => [[c]]
      | w :: ws => (c :: w) :: ws

/-- The words with one space between each two of them. -/
def unwords (ws : List Text) : Text := [' '].intercalate ws

/-- The canonical form of a text: its words, one space between each two of them. -/
def collapse (t : Text) : Text := unwords (words t)

/-! ## Lines -/

/-- The text with one kind of line break: a carriage return, alone or before a line feed, becomes a line feed. -/
def unifyBreaks : Text → Text
  | [] => []
  | [c] => [if c = '\r' then '\n' else c]
  | c :: d :: rest =>
    if c = '\r' then if d = '\n' then '\n' :: unifyBreaks rest else '\n' :: unifyBreaks (d :: rest)
    else c :: unifyBreaks (d :: rest)

/-! ## Joining and searching -/

/-- The pieces with a separator between each two of them. -/
def joinWith (separator : Text) (pieces : List Text) : Text := separator.intercalate pieces

/-- The pieces between the places where a character stands. -/
def splitAt (c : Char) : Text → List Text
  | [] => [[]]
  | d :: rest =>
    if d = c then [] :: splitAt c rest
    else match splitAt c rest with
      | piece :: pieces => (d :: piece) :: pieces
      | [] => [[d]]

/-- Whether one text occurs inside another. -/
def occurs (part : Text) : Text → Bool
  | [] => part.isEmpty
  | c :: rest => part.isPrefixOf (c :: rest) || occurs part rest

/-- Whether a text comes before another in the order of code points, a text before its own continuations. -/
def precedes : Text → Text → Bool
  | [], [] => false
  | [], _ :: _ => true
  | _ :: _, [] => false
  | c :: s, d :: t => if c.toNat < d.toNat then true else if c = d then precedes s t else false

/-- The position of the last occurrence of a character, when there is one. -/
def lastIndexOf (c : Char) (t : Text) : Option Nat :=
  match t.reverse.findIdx? (· == c) with
  | none => none
  | some i => some (t.length - 1 - i)

/-! ## Numbers as text -/

/-- The decimal digits of a number. -/
def ofNat (n : Nat) : Text := Nat.toDigits 10 n

/-- The decimal digits of an integer, after a minus sign when it is negative. -/
def ofInt : Int → Text
  | .ofNat n => ofNat n
  | .negSucc n => '-' :: ofNat (n + 1)

/-- The greatest number of decimal digits that a number is read from or written in. -/
def digitLimit : Nat := 4300

/-- Whether a number has too many decimal digits to be written in them. -/
def isTooLong (n : Nat) : Bool := digitLimit < (ofNat n).length

/-- What is said of a number with too many decimal digits, and how many they are if it was to be read from them. -/
def digitsMessage (count : Option Nat) : Text :=
  "Exceeds the limit (".toList ++ ofNat digitLimit ++ " digits) for integer string conversion".toList ++
    (match count with
      | some n => ": value has ".toList ++ ofNat n ++ " digits".toList
      | none => []) ++
    "; use sys.set_int_max_str_digits() to increase the limit".toList

/-- The hexadecimal digits of a number, with zeros in front up to the given width. -/
def hexadecimal (width n : Nat) : Text :=
  let digits := Nat.toDigits 16 n
  List.replicate (width - digits.length) '0' ++ digits

/-- The value of a hexadecimal digit. -/
def hexValue? (c : Char) : Option Nat :=
  let n := c.toNat
  if 0x30 ≤ n ∧ n ≤ 0x39 then some (n - 0x30)
  else if 0x41 ≤ n ∧ n ≤ 0x46 then some (n - 0x37)
  else if 0x61 ≤ n ∧ n ≤ 0x66 then some (n - 0x57)
  else none

/-- The number that hexadecimal digits denote, when each of them is one. -/
def hexNumber? (digits : Text) : Option Nat :=
  digits.foldl (fun acc c => acc.bind fun n => (hexValue? c).map (n * 16 + ·)) (some 0)

/-- The number that decimal digits denote, when each of them is one. -/
def decimalNumber? (digits : Text) : Option Nat :=
  digits.foldl (fun acc c => acc.bind fun n => if c.isDigit then some (n * 10 + (c.toNat - 0x30)) else none) (some 0)

end Text

end CriticalCss
