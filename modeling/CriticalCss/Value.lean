import CriticalCss.Json.Basic
import CriticalCss.Text.Quoted
import CriticalCss.Decimal.Shortest

/-!
# Loaded values

What a configuration file or a caller hands over before it is known to be a pattern or a setting. `Value.shown` is the form in which
messages show such a value, `Value.plain` the form in which it stands for itself.
-/

namespace CriticalCss

/-- A calendar day. -/
structure Day where
  year : Nat
  month : Nat
  day : Nat
  deriving DecidableEq, Repr

/-- A time of a day, with the seconds by which its clock is ahead of universal time when that is known. -/
structure Moment where
  day : Day
  hour : Nat
  minute : Nat
  second : Nat
  microsecond : Nat
  ahead : Option Int
  deriving DecidableEq, Repr

/-- A loaded value. -/
inductive Value
  | null
  | bool (b : Bool)
  | int (n : Int)
  | real (x : Float)
  | text (t : Text)
  | bytes (data : List UInt8)
  | day (d : Day)
  | moment (m : Moment)
  | list (items : List Value)
  /-- Two values that belong together. -/
  | pair (first second : Value)
  /-- Distinct values. -/
  | set (items : List Value)
  /-- Keys with their values, in the order in which the keys first came. -/
  | mapping (entries : List (Value × Value))
  /-- The container that lies some levels around this place, the nearest being level zero. -/
  | enclosing (level : Nat) (isMapping : Bool)
  deriving Inhabited

namespace Value

/-- The value of a text literal. -/
def ofString (s : String) : Value := .text s.toList

/-- Whether a value is a given text. -/
def isText (t : Text) : Value → Bool
  | .text u => u == t
  | _ => false

/-! ## From JSON -/

mutual

/-- A JSON value as a loaded value. -/
def ofJson : Json → Value
  | .null => .null
  | .bool b => .bool b
  | .int n => .int n
  | .real x => .real x
  | .text t => .text t
  | .list items => .list (ofJsonItems items)
  | .object members => .mapping (ofJsonMembers members)

/-- The items of a JSON list. -/
def ofJsonItems : List Json → List Value
  | [] => []
  | item :: rest => ofJson item :: ofJsonItems rest

/-- The members of a JSON object. -/
def ofJsonMembers : List (Text × Json) → List (Value × Value)
  | [] => []
  | (key, value) :: rest => (.text key, ofJson value) :: ofJsonMembers rest

end

/-! ## Keys -/

/-- The number that a key counts as. -/
def keyNumber? : Value → Option Float
  | .bool b => some (if b then 1 else 0)
  | .int n => some (Float.ofInt n)
  | .real x => some x
  | _ => none

/-- Whether two values are the same key. Numbers of every kind are compared by their value. -/
def sameKey : Value → Value → Bool
  | .null, .null => true
  | .text a, .text b => a == b
  | .bytes a, .bytes b => a == b
  | .day a, .day b => a == b
  | .moment a, .moment b => a == b
  | .int a, .int b => a == b
  | a, b => match a.keyNumber?, b.keyNumber? with
    | some x, some y => x == y
    | _, _ => false

/-- Gives a key a value: a key that is there keeps its place and its form, a new one comes last. -/
def put (key value : Value) : List (Value × Value) → List (Value × Value)
  | [] => [(key, value)]
  | (k, v) :: rest => if k.sameKey key then (k, value) :: rest else (k, v) :: put key value rest

/-- The value of a key that is a text. -/
def field? (name : Text) : List (Value × Value) → Option Value
  | [] => none
  | (.text k, v) :: rest => if k = name then some v else field? name rest
  | _ :: rest => field? name rest

/-! ## The inside of containers -/

mutual

/-- Puts a container in the places that refer to it, a number of levels inside it. -/
def fill (container : Value) (level : Nat) : Value → Value
  | .list items => .list (fillItems container (level + 1) items)
  | .pair a b => .pair (fill container (level + 1) a) (fill container (level + 1) b)
  | .mapping entries => .mapping (fillEntries container (level + 1) entries)
  | .enclosing k isMapping => if k = level then container else .enclosing k isMapping
  | value => value

/-- Puts a container in the places of some items that refer to it. -/
def fillItems (container : Value) (level : Nat) : List Value → List Value
  | [] => []
  | item :: rest => fill container level item :: fillItems container level rest

/-- Puts a container in the places of some entries that refer to it. -/
def fillEntries (container : Value) (level : Nat) : List (Value × Value) → List (Value × Value)
  | [] => []
  | (key, value) :: rest => (key, fill container level value) :: fillEntries container level rest

end

/-- The items of a list, as they are when taken out of it. -/
def openItems (items : List Value) : List Value := fillItems (.list items) 0 items

/-- The entries of a mapping, as they are when taken out of it. -/
def openEntries (entries : List (Value × Value)) : List (Value × Value) := fillEntries (.mapping entries) 0 entries

/-! ## Times as text -/

/-- A number with zeros in front up to a width. -/
def padded (width n : Nat) : Text :=
  let digits := Text.ofNat n
  List.replicate (width - digits.length) '0' ++ digits

/-- A day as year, month and day with hyphens between them. -/
def dayText (d : Day) : Text := padded 4 d.year ++ '-' :: (padded 2 d.month ++ '-' :: padded 2 d.day)

/-- The distance of a clock from universal time. -/
def aheadText (seconds : Int) : Text :=
  let n := seconds.natAbs
  let rest := if n % 60 = 0 then [] else ':' :: padded 2 (n % 60)
  (if seconds < 0 then '-' else '+') :: (padded 2 (n / 3600) ++ ':' :: (padded 2 (n / 60 % 60) ++ rest))

/-- A moment with a blank between day and time. -/
def momentText (m : Moment) : Text :=
  dayText m.day ++ ' ' :: (padded 2 m.hour ++ ':' :: (padded 2 m.minute ++ ':' :: padded 2 m.second)) ++
    (if m.microsecond = 0 then [] else '.' :: padded 6 m.microsecond) ++
    (match m.ahead with
      | none => []
      | some seconds => aheadText seconds)

/-- Numbers with commas between them. -/
def commaNumbers (ns : List Nat) : Text := Text.joinWith [',', ' '] (ns.map Text.ofNat)

/-- A day as the call that makes it. -/
def dayShown (d : Day) : Text := "datetime.date(".toList ++ commaNumbers [d.year, d.month, d.day] ++ [')']

/-- A distance in time as the call that makes it: days first, and seconds that are not negative. -/
def distanceShown (seconds : Int) : Text :=
  let days := seconds.fdiv 86400
  let rest := seconds.fmod 86400
  let parts : List Text :=
    (if days = 0 then [] else ["days=".toList ++ Text.ofInt days]) ++
    (if rest = 0 then [] else ["seconds=".toList ++ Text.ofInt rest])
  "datetime.timedelta(".toList ++ (if parts.isEmpty then ['0'] else Text.joinWith [',', ' '] parts) ++ [')']

/-- A distance from universal time as the call that makes it. -/
def zoneShown (seconds : Int) : Text :=
  if seconds = 0 then "datetime.timezone.utc".toList
  else "datetime.timezone(".toList ++ distanceShown seconds ++ [')']

/-- A moment as the call that makes it; seconds and their fraction are left out when they are zero. -/
def momentShown (m : Moment) : Text :=
  let tail : List Nat :=
    if m.microsecond ≠ 0 then [m.second, m.microsecond] else if m.second ≠ 0 then [m.second] else []
  "datetime.datetime(".toList ++ commaNumbers ([m.day.year, m.day.month, m.day.day, m.hour, m.minute] ++ tail) ++
    (match m.ahead with
      | none => []
      | some seconds => ", tzinfo=".toList ++ zoneShown seconds) ++ [')']

/-! ## Values as text -/

mutual

/-- The form in which messages show a value. -/
def shown : Value → Text
  | .null => "None".toList
  | .bool true => "True".toList
  | .bool false => "False".toList
  | .int n => Text.ofInt n
  | .real x => Decimal.ofFloat x
  | .text t => Text.quoted t
  | .bytes data => Text.quotedBytes data
  | .day d => dayShown d
  | .moment m => momentShown m
  | .list items => '[' :: (shownItems items ++ [']'])
  | .pair a b => '(' :: (shown a ++ ',' :: ' ' :: (shown b ++ [')']))
  | .set [] => "set()".toList
  | .set items => '\x7b' :: (shownItems items ++ ['\x7d'])
  | .mapping entries => '\x7b' :: (shownEntries entries ++ ['\x7d'])
  | .enclosing _ true => ['\x7b', '.', '.', '.', '\x7d']
  | .enclosing _ false => ['[', '.', '.', '.', ']']

/-- The items of a container with commas between them. -/
def shownItems : List Value → Text
  | [] => []
  | [item] => shown item
  | item :: rest => shown item ++ ',' :: ' ' :: shownItems rest

/-- The entries of a mapping with commas between them. -/
def shownEntries : List (Value × Value) → Text
  | [] => []
  | [(key, value)] => shown key ++ ':' :: ' ' :: shown value
  | (key, value) :: rest => shown key ++ ':' :: ' ' :: (shown value ++ ',' :: ' ' :: shownEntries rest)

end

/-- The form in which a value stands for itself: texts and times without the marks that show their kind. -/
def plain : Value → Text
  | .text t => t
  | .day d => dayText d
  | .moment m => momentText m
  | value => shown value

end Value

end CriticalCss
