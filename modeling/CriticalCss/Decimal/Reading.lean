import CriticalCss.Text.Basic

/-!
# Reading decimal numbers

The floating-point number that decimal digits denote is the one nearest to them; an exact tie goes to the even neighbour.
-/

namespace CriticalCss.Decimal

/-- The number `digits * 10 ^ exponent` as a floating-point number. -/
def toFloat (negative : Bool) (digits : Nat) (exponent : Int) : Float :=
  let magnitude :=
    if digits = 0 then 0.0
    else if 400 < exponent then 1.0 / 0.0
    else if exponent < -(400 + (Nat.toDigits 10 digits).length : Int) then 0.0
    else Float.ofScientific digits (decide (exponent < 0)) exponent.natAbs
  if negative then -magnitude else magnitude

/-- A sign that a text may begin with, and what follows it. -/
def takeSign : Text → Bool × Text
  | '-' :: rest => (true, rest)
  | '+' :: rest => (false, rest)
  | rest => (false, rest)

/-- An exponent that has to take up the whole text; nothing written is the exponent zero. -/
def exponent? : Text → Option Int
  | [] => some 0
  | c :: rest =>
    if c = 'e' ∨ c = 'E' then
      let (negative, digits) := takeSign rest
      if digits.isEmpty then none
      else (Text.decimalNumber? digits).map fun n => if negative then -(n : Int) else n
    else none

/-- The number that a text without a sign denotes: digits with a point among or beside them and an exponent, or one of the names of
infinity and of the undefined number. -/
def readUnsigned? (negative : Bool) (t : Text) : Option Float :=
  let name := t.map Char.toLower
  if name = "inf".toList ∨ name = "infinity".toList then some (if negative then -(1.0 / 0.0) else 1.0 / 0.0)
  else if name = "nan".toList then some (0.0 / 0.0)
  else
    let whole := t.takeWhile Char.isDigit
    let rest := t.drop whole.length
    let fraction := match rest with
      | '.' :: more => more.takeWhile Char.isDigit
      | _ => []
    let rest := match rest with
      | '.' :: more => more.drop fraction.length
      | rest => rest
    match exponent? rest, Text.decimalNumber? (whole ++ fraction) with
    | some e, some n =>
      if whole.isEmpty && fraction.isEmpty then none else some (toFloat negative n (e - fraction.length))
    | _, _ => none

/-- The number that a text denotes; there may be a sign before it, and blanks around it. -/
def read? (t : Text) : Option Float :=
  let (negative, rest) := takeSign (Text.trim t)
  readUnsigned? negative rest

end CriticalCss.Decimal
