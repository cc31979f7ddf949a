import CriticalCss.Host
import CriticalCss.Regexp.Problem

/-!
# Interruptions

Most of what is wrong with a value is found by checking it, and told with the part that it is wrong with. A few things end the check at
once, and what they say names no part: a count that is too large, work that there is no room for, and a number that is too long to be
written into a message.
-/

namespace CriticalCss

/-- What ends a check at once. -/
inductive Interruption
  /-- A regular expression repeats something too often to be counted. -/
  | countTooLarge
  /-- There is no room for the work. -/
  | exhausted (message : Text)
  /-- A number has too many digits to be written into a message. -/
  | tooManyDigits
  deriving DecidableEq, Repr

/-- What an interruption says. -/
def Interruption.message : Interruption → Text
  | .countTooLarge => Regexp.Failure.message [] .countTooLarge
  | .exhausted message => message
  | .tooManyDigits => Text.digitsMessage none

namespace Value

mutual

/-- Whether a number that is too long to be written stands in a value. -/
def hasLongNumber : Value → Bool
  | .int n => Text.isTooLong n.natAbs
  | .list items => anyLongNumber items
  | .pair a b => a.hasLongNumber || b.hasLongNumber
  | .set items => anyLongNumber items
  | .mapping entries => anyLongEntry entries
  | _ => false

/-- Whether such a number stands in some items. -/
def anyLongNumber : List Value → Bool
  | [] => false
  | item :: rest => item.hasLongNumber || anyLongNumber rest

/-- Whether such a number stands in some entries. -/
def anyLongEntry : List (Value × Value) → Bool
  | [] => false
  | (key, value) :: rest => key.hasLongNumber || value.hasLongNumber || anyLongEntry rest

end

/-- What kind of value a value is. -/
def kindName : Value → String
  | .null => "NoneType"
  | .bool _ => "bool"
  | .int _ => "int"
  | .real _ => "float"
  | .text _ => "str"
  | .bytes _ => "bytes"
  | .day _ => "date"
  | .moment _ => "datetime"
  | .list _ | .enclosing _ false => "list"
  | .pair _ _ => "tuple"
  | .set _ => "set"
  | .mapping _ | .enclosing _ true => "dict"

variable [Host]

/-- What keeps a value from being written into a message, if anything does. -/
def interruption? (v : Value) : Option Interruption :=
  match Host.exhausted? (.showing v) with
  | some message => some (.exhausted message)
  | none => if v.hasLongNumber then some .tooManyDigits else none

/-- What keeps a value from being written as it stands for itself. A text always can be. -/
def plainInterruption? : Value → Option Interruption
  | .text _ => none
  | v => v.interruption?

/-- A value as the tag of a mapping in a message. A value that cannot be written is told by its kind. -/
def tagText (v : Value) : Text :=
  match v.plainInterruption? with
  | none => v.plain
  | some _ => "<unprintable ".toList ++ v.kindName.toList ++ " object>".toList

end Value

end CriticalCss
