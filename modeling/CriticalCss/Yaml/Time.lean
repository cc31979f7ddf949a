import CriticalCss.Yaml.Fault

/-!
# Times in YAML

A time is written as a day, or as a day and the time of that day, with the distance of the clock from universal time behind it if it
is known.
-/

namespace CriticalCss.Yaml

/-! ## As written -/

/-- The time of a day as it is written. -/
structure WrittenClock where
  hour : Nat
  minute : Nat
  second : Nat
  microsecond : Nat
  /-- The seconds by which the clock is ahead of universal time. -/
  ahead : Option Int
  deriving DecidableEq, Repr

/-- A time as it is written. -/
structure WrittenTime where
  day : Day
  /-- Whether month and day have two digits each. -/
  full : Bool
  clock : Option WrittenClock
  deriving DecidableEq, Repr

/-- A run of digits of a length between two bounds, and what follows it. -/
def takeDigits (least most : Nat) (t : Text) : Option (Text × Text) :=
  let run := (t.take most).takeWhile Char.isDigit
  if run.length < least then none else some (run, t.drop run.length)

/-- The number that digits denote. -/
def numberOf (digits : Text) : Nat := (Text.decimalNumber? digits).getD 0

/-- A character that has to come next, and what follows it. -/
def after? (c : Char) : Text → Option Text
  | d :: rest => if d = c then some rest else none
  | [] => none

/-- The first six digits of a fraction as millionths. -/
def microseconds (digits : Text) : Nat :=
  let six := digits.take 6
  numberOf (six ++ List.replicate (6 - six.length) '0')

/-- The distance from universal time that ends a time, if one is written. -/
def readZone (t : Text) : Option (Option Int) :=
  if t.isEmpty then some none
  else match t.dropWhile fun c => c == ' ' || c == '\t' with
    | ['Z'] => some (some 0)
    | sign :: rest => do
      if sign != '+' && sign != '-' then none
      else
        let (hours, rest) ← takeDigits 1 2 rest
        let minutes ← match rest with
          | [] => some 0
          | ':' :: rest => do
            let (minutes, rest) ← takeDigits 2 2 rest
            if rest.isEmpty then some (numberOf minutes) else none
          | _ => none
        let seconds : Int := numberOf hours * 3600 + minutes * 60
        return some (if sign == '-' then -seconds else seconds)
    | [] => none

/-- The time of a day. -/
def readClock (t : Text) : Option WrittenClock := do
  let (hour, rest) ← takeDigits 1 2 t
  let (minute, rest) ← takeDigits 2 2 (← after? ':' rest)
  let (second, rest) ← takeDigits 2 2 (← after? ':' rest)
  let fraction := match rest with
    | '.' :: more => more.takeWhile Char.isDigit
    | _ => []
  let rest := match rest with
    | '.' :: more => more.drop fraction.length
    | rest => rest
  let ahead ← readZone rest
  return ⟨numberOf hour, numberOf minute, numberOf second, microseconds fraction, ahead⟩

/-- What stands between a day and the time of the day: a letter, or blanks. -/
def afterDay? : Text → Option Text
  | 'T' :: rest => some rest
  | 't' :: rest => some rest
  | c :: rest => if c == ' ' || c == '\t' then some (rest.dropWhile fun d => d == ' ' || d == '\t') else none
  | [] => none

/-- The time that a text writes, if it has the form of one. -/
def WrittenTime.read? (t : Text) : Option WrittenTime := do
  let (year, rest) ← takeDigits 4 4 t
  let (month, rest) ← takeDigits 1 2 (← after? '-' rest)
  let (day, rest) ← takeDigits 1 2 (← after? '-' rest)
  let written : Day := ⟨numberOf year, numberOf month, numberOf day⟩
  let full := month.length == 2 && day.length == 2
  if rest.isEmpty then return ⟨written, full, none⟩
  else return ⟨written, full, some (← readClock (← afterDay? rest))⟩

/-- Whether a plain scalar has the form of a time. A day alone has to be written in full. -/
def looksTime (t : Text) : Bool :=
  match WrittenTime.read? t with
  | some w => w.full || w.clock.isSome
  | none => false

/-! ## Values -/

/-- Whether a year has a day more than others. -/
def isLeap (year : Nat) : Bool := year % 4 == 0 && (year % 100 != 0 || year % 400 == 0)

/-- The number of days of a month. -/
def daysOf (year month : Nat) : Nat :=
  if month == 2 then (if isLeap year then 29 else 28)
  else if [4, 6, 9, 11].elem month then 30 else 31

/-- What is wrong with a day: its year, its month or its day, whichever comes first. -/
def dayFault? (d : Day) : Option TimeFault :=
  if d.year < 1 || 9999 < d.year then some (.year d.year)
  else if d.month < 1 || 12 < d.month then some .month
  else if d.day < 1 || daysOf d.year d.month < d.day then some .day
  else none

/-- What is wrong with the time of a day. -/
def clockFault? (c : WrittenClock) : Option TimeFault :=
  if 23 < c.hour then some .hour
  else if 59 < c.minute then some .minute
  else if 59 < c.second then some .second
  else none

/-- What is wrong with the distance of a clock from universal time. -/
def distanceFault? (c : WrittenClock) : Option TimeFault :=
  match c.ahead with
  | some seconds => if seconds.natAbs < 86400 then none else some (.distance seconds)
  | none => none

/-- The value of a time. -/
def timeValue (t : Text) : Except Fault Value :=
  match WrittenTime.read? t with
  | none => .error .noTime
  | some w => match w.clock with
    | none => match dayFault? w.day with
      | some fault => .error (.badTime fault)
      | none => .ok (.day w.day)
    | some c => match ((distanceFault? c).or (dayFault? w.day)).or (clockFault? c) with
      | some fault => .error (.badTime fault)
      | none => .ok (.moment ⟨w.day, c.hour, c.minute, c.second, c.microsecond, c.ahead⟩)

end CriticalCss.Yaml
