import CriticalCss.Json.Basic
import CriticalCss.Decimal.Shortest

/-!
# Writing JSON

Two layouts of the same value: on one line, and indented by two blanks a level. Either uses ASCII alone: every other code point of a
text is written as one or two `\u` escapes of sixteen bits each.
-/

namespace CriticalCss.Json

/-! ## Texts -/

/-- An escape of sixteen bits. -/
def escapeUnit (n : Nat) : Text := '\\' :: 'u' :: Text.hexadecimal 4 n

/-- One code point inside a JSON text. -/
def escapeChar (c : Char) : Text :=
  let n := c.toNat
  if n = 0x22 then ['\\', '\x22']
  else if n = 0x5C then ['\\', '\\']
  else if n = 0x0A then ['\\', 'n']
  else if n = 0x0D then ['\\', 'r']
  else if n = 0x09 then ['\\', 't']
  else if n = 0x0C then ['\\', 'f']
  else if n = 0x08 then ['\\', 'b']
  else if 0x20 ≤ n ∧ n ≤ 0x7E then [c]
  else if n < 0x10000 then escapeUnit n
  else escapeUnit (0xD800 + (n - 0x10000) / 0x400) ++ escapeUnit (0xDC00 + (n - 0x10000) % 0x400)

/-- A text between double quotes. -/
def quote (t : Text) : Text := '\x22' :: (t.flatMap escapeChar ++ ['\x22'])

/-! ## Scalars -/

/-- A floating-point number. The infinities and the undefined number have names of their own. -/
def realText (x : Float) : Text :=
  if x.isNaN then ['N', 'a', 'N']
  else if x.isInf then (if x < 0 then "-Infinity".toList else "Infinity".toList)
  else Decimal.ofFloat x

/-- The text of a value that is neither a list nor an object. -/
def scalarText : Json → Text
  | .bool true => ['t', 'r', 'u', 'e']
  | .bool false => ['f', 'a', 'l', 's', 'e']
  | .int n => Text.ofInt n
  | .real x => realText x
  | .text t => quote t
  | _ => ['n', 'u', 'l', 'l']

/-! ## One line -/

mutual

/-- The value on one line, a blank after each comma and colon. -/
def compact : Json → Text
  | .list items => '[' :: (compactItems items ++ [']'])
  | .object members => '{' :: (compactMembers members ++ ['}'])
  | value => scalarText value

/-- The items of a list on one line. -/
def compactItems : List Json → Text
  | [] => []
  | [item] => compact item
  | item :: rest => compact item ++ ',' :: ' ' :: compactItems rest

/-- The members of an object on one line. -/
def compactMembers : List (Text × Json) → Text
  | [] => []
  | [(key, value)] => quote key ++ ':' :: ' ' :: compact value
  | (key, value) :: rest => quote key ++ ':' :: ' ' :: (compact value ++ ',' :: ' ' :: compactMembers rest)

end

/-! ## Indented -/

/-- A line break and the indentation of a level. -/
def newLine (level : Nat) : Text := '\n' :: List.replicate (2 * level) ' '

mutual

/-- The value with each item and member on a line of its own; an empty list or object takes no line. -/
def prettyAt (level : Nat) : Json → Text
  | .list [] => ['[', ']']
  | .object [] => ['{', '}']
  | .list items => '[' :: (newLine (level + 1) ++ prettyItems (level + 1) items ++ newLine level ++ [']'])
  | .object members => '{' :: (newLine (level + 1) ++ prettyMembers (level + 1) members ++ newLine level ++ ['}'])
  | value => scalarText value

/-- The items of a list, each on its line. -/
def prettyItems (level : Nat) : List Json → Text
  | [] => []
  | [item] => prettyAt level item
  | item :: rest => prettyAt level item ++ ',' :: (newLine level ++ prettyItems level rest)

/-- The members of an object, each on its line. -/
def prettyMembers (level : Nat) : List (Text × Json) → Text
  | [] => []
  | [(key, value)] => quote key ++ ':' :: ' ' :: prettyAt level value
  | (key, value) :: rest =>
    quote key ++ ':' :: ' ' :: (prettyAt level value ++ ',' :: (newLine level ++ prettyMembers level rest))

end

/-- The value indented by two blanks a level. -/
def pretty (value : Json) : Text := prettyAt 0 value

end CriticalCss.Json
