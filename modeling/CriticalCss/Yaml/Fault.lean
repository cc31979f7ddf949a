import CriticalCss.Value

/-!
# What is wrong with a YAML file

Nearly all faults are of one kind: the file is not well formed, or it asks for something that a plain loader does not make. The others
are values that look like a number, a time or a character and are none.
-/

namespace CriticalCss.Yaml

/-- Why a time is none. -/
inductive TimeFault
  | year (year : Nat)
  | month
  | day
  | hour
  | minute
  | second
  /-- The clock is a day or more away from universal time. -/
  | distance (seconds : Int)
  deriving DecidableEq, Repr

/-- Why a file cannot be loaded. -/
inductive Fault
  | malformed
  /-- An escape asks for a code point past the last. -/
  | codeTooLarge
  /-- An escape asks for a code point past every number that is counted in. -/
  | codePastCounting
  | noTruthValue (text : Text)
  /-- A number without digits. -/
  | emptyNumber
  | badInteger (base : Nat) (text : Text)
  /-- A decimal number with too many digits to be read. -/
  | tooManyDigits (count : Nat)
  | badReal (text : Text)
  /-- A number counted in sixties with more places than a floating-point number has. -/
  | realTooLarge
  /-- A value that is said to be a time and is written as none. -/
  | noTime
  | badTime (fault : TimeFault)
  /-- There is no room for loading the file. -/
  | exhausted (message : Text)
  deriving DecidableEq, Repr

/-- What is wrong with a time. -/
def TimeFault.message : TimeFault → Text
  | .year n => "year ".toList ++ Text.ofNat n ++ " is out of range".toList
  | .month => "month must be in 1..12".toList
  | .day => "day is out of range for month".toList
  | .hour => "hour must be in 0..23".toList
  | .minute => "minute must be in 0..59".toList
  | .second => "second must be in 0..59".toList
  | .distance seconds =>
    "offset must be a timedelta strictly between -timedelta(hours=24) and timedelta(hours=24), not ".toList ++
      Value.distanceShown seconds ++ ['.']

/-- What is wrong with a file. -/
def Fault.message : Fault → Text
  | .malformed => "Invalid YAML".toList
  | .codeTooLarge => "chr() arg not in range(0x110000)".toList
  | .codePastCounting => "Python int too large to convert to C int".toList
  | .noTruthValue t => Text.quoted t
  | .emptyNumber => "string index out of range".toList
  | .badInteger base t =>
    "invalid literal for int() with base ".toList ++ Text.ofNat base ++ ": ".toList ++ (Text.quoted t).take 200
  | .tooManyDigits count => Text.digitsMessage (some count)
  | .badReal t => "could not convert string to float: ".toList ++ Text.quoted t
  | .realTooLarge => "int too large to convert to float".toList
  | .noTime => "'NoneType' object has no attribute 'groupdict'".toList
  | .badTime fault => fault.message
  | .exhausted message => message

/-- Whether a value that is written stands for none: a number, a time or a code point that there is not. -/
def Fault.isOfValue : Fault → Bool
  | .codeTooLarge | .badInteger .. | .tooManyDigits _ | .badReal _ | .badTime _ => true
  | _ => false

end CriticalCss.Yaml
