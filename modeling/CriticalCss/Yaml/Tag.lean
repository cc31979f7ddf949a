import CriticalCss.Yaml.Number
import CriticalCss.Yaml.Time
import CriticalCss.Unicode.Case

/-!
# Tags of YAML

The tag of a node says what its value is. A plain scalar without a tag has the one that its form suggests.
-/

namespace CriticalCss.Yaml

/-- What the value of a node is. -/
inductive Tag
  | null
  | bool
  | int
  | real
  | binary
  | time
  /-- A list of pairs, first meant as a mapping with an order. -/
  | orderedMap
  | pairs
  | set
  | text
  | sequence
  | mapping
  /-- Stands as a key for the entries of another mapping. -/
  | merge
  /-- Stands as a key for the value of a mapping that is used as a scalar. -/
  | default
  /-- A tag that a plain loader does not know. -/
  | unknown
  deriving DecidableEq, Repr

namespace Tag

/-- What the full names of the known tags begin with. -/
def namespaceText : Text := "tag:yaml.org,2002:".toList

/-- The names of the known tags. -/
def names : List (Text × Tag) :=
  [("null".toList, .null), ("bool".toList, .bool), ("int".toList, .int), ("float".toList, .real),
   ("binary".toList, .binary), ("timestamp".toList, .time), ("omap".toList, .orderedMap), ("pairs".toList, .pairs),
   ("set".toList, .set), ("str".toList, .text), ("seq".toList, .sequence), ("map".toList, .mapping),
   ("merge".toList, .merge), ("value".toList, .default)]

/-- The tag of a full name. -/
def ofName (name : Text) : Tag :=
  if namespaceText.isPrefixOf name then (names.lookup (name.drop namespaceText.length)).getD .unknown else .unknown

/-- The words for truth values, with the first letter or all letters capital or none. -/
def truthWords : List Text :=
  ["yes", "Yes", "YES", "no", "No", "NO", "true", "True", "TRUE", "false", "False", "FALSE",
   "on", "On", "ON", "off", "Off", "OFF"].map String.toList

/-- The words for nothing. -/
def nullWords : List Text := ["~", "null", "Null", "NULL"].map String.toList

/-- A text without the line break it may end with. -/
def dropFinalBreak (t : Text) : Text := if t.getLast? == some '\n' then t.dropLast else t

/-- The tag that the form of a plain scalar suggests. A line break at its end does not count. -/
def ofPlain (t : Text) : Tag :=
  if t.isEmpty then .null
  else
    let t := dropFinalBreak t
    if truthWords.elem t then .bool
    else if looksReal t then .real
    else if looksInteger t then .int
    else if t == ['<', '<'] then .merge
    else if nullWords.elem t then .null
    else if looksTime t then .time
    else if t == ['='] then .default
    else .text

end Tag

/-! ## Values of scalars -/

/-- The value of a truth word. -/
def truthValue (t : Text) : Except Fault Value :=
  let word := Unicode.lower t
  if ["yes", "true", "on"].any (·.toList == word) then .ok (.bool true)
  else if ["no", "false", "off"].any (·.toList == word) then .ok (.bool false)
  else .error (.noTruthValue word)

/-- The value of a character among sixty-four. -/
def sixBits? (c : Char) : Option Nat :=
  if c.isUpper then some (c.toNat - 0x41)
  else if c.isLower then some (c.toNat - 0x61 + 26)
  else if c.isDigit then some (c.toNat - 0x30 + 52)
  else if c == '+' then some 62
  else if c == '/' then some 63
  else none

/-- The bytes that groups of four characters stand for. `bits` holds what the characters of an incomplete group say, `count` their
number, and `fill` the number of filling signs in a row. Other characters do not count. -/
def groupBytes (bits count fill : Nat) : Text → Option (List UInt8)
  | [] => if count == 0 then some [] else none
  | c :: rest =>
    if c == '=' then
      if 2 ≤ count then if 4 ≤ count + fill + 1 then some [] else groupBytes bits count (fill + 1) rest
      else groupBytes bits count fill rest
    else match sixBits? c with
      | none => groupBytes bits count fill rest
      | some n =>
        let all := bits * 64 + n
        match count with
        | 0 => groupBytes n 1 0 rest
        | 1 => (groupBytes (all % 16) 2 0 rest).map (UInt8.ofNat (all / 16) :: ·)
        | 2 => (groupBytes (all % 4) 3 0 rest).map (UInt8.ofNat (all / 4) :: ·)
        | _ => (groupBytes 0 0 0 rest).map (UInt8.ofNat all :: ·)

/-- The value of bytes written as text. -/
def binaryValue (t : Text) : Except Fault Value :=
  if t.all fun c => c.toNat < 0x80 then
    match groupBytes 0 0 0 t with
    | some bytes => .ok (.bytes bytes)
    | none => .error .malformed
  else .error .malformed

/-- The value of a scalar with a tag. A collection is none. -/
def scalarValue (tag : Tag) (t : Text) : Except Fault Value :=
  match tag with
  | .null => .ok .null
  | .bool => truthValue t
  | .int => (integerValue t).map .int
  | .real => (realValue t).map .real
  | .binary => binaryValue t
  | .time => timeValue (Tag.dropFinalBreak t)
  | .text => .ok (.text t)
  | _ => .error .malformed

end CriticalCss.Yaml
