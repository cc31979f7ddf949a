import CriticalCss.Decimal.Reading
import CriticalCss.Unicode.Letters
import CriticalCss.Unicode.Case
import CriticalCss.Yaml.Fault

/-!
# Numbers in YAML

Which plain scalars are numbers, and which numbers they are. Low lines between digits do not count. Digits between colons are counted
in sixties.
-/

namespace CriticalCss.Yaml

/-! ## Forms -/

/-- Whether a code point is a digit or a low line. -/
def isDigitPart (c : Char) : Bool := c.isDigit || c == '_'

/-- A text without the sign it may begin with. -/
def dropSign : Text → Text
  | '-' :: rest => rest
  | '+' :: rest => rest
  | rest => rest

/-- Whether a text is a number below sixty, of one or two digits. -/
def isSixtieth : Text → Bool
  | [a] => a.isDigit
  | [a, b] => '0' ≤ a && a ≤ '5' && b.isDigit
  | _ => false

/-- Whether a text has the form of an integer. -/
def looksInteger (t : Text) : Bool :=
  match dropSign t with
  | [] => false
  | ['0'] => true
  | '0' :: 'b' :: digits => !digits.isEmpty && digits.all fun c => c == '0' || c == '1' || c == '_'
  | '0' :: 'x' :: digits => !digits.isEmpty && digits.all fun c => (Text.hexValue? c).isSome || c == '_'
  | '0' :: digits => digits.all fun c => ('0' ≤ c && c ≤ '7') || c == '_'
  | c :: rest =>
    c.isDigit && match Text.splitAt ':' rest with
      | first :: sixtieths => first.all isDigitPart && sixtieths.all isSixtieth
      | [] => false

/-- Whether a text is empty or an exponent with a sign. -/
def isSignedExponent : Text → Bool
  | [] => true
  | c :: sign :: digits => (c == 'e' || c == 'E') && (sign == '-' || sign == '+') && !digits.isEmpty && digits.all Char.isDigit
  | _ => false

/-- Whether a text is digits and low lines up to its exponent. -/
def isFraction (t : Text) : Bool := isSignedExponent (t.dropWhile isDigitPart)

/-- Whether a text has the form of a number with a point. -/
def looksReal (t : Text) : Bool :=
  [".nan".toList, ".NaN".toList, ".NAN".toList].elem t ||
  [".inf".toList, ".Inf".toList, ".INF".toList].elem (dropSign t) ||
  (match t with
    | '.' :: c :: rest => c.isDigit && isFraction rest
    | _ => false) ||
  (let body := dropSign t
   let whole := body.takeWhile (· != '.')
   match Text.splitAt ':' whole, body.drop whole.length with
   | (c :: first) :: sixtieths, '.' :: fraction =>
     c.isDigit && first.all isDigitPart && sixtieths.all isSixtieth &&
       (if sixtieths.isEmpty then isFraction fraction else fraction.all isDigitPart)
   | _, _ => false)

/-! ## Values -/

/-- The value of a digit of any script. -/
def digitOf? (c : Char) : Option Nat := (Text.hexValue? c).or (Unicode.digitValue? c.toNat)

/-- The number that digits of a base denote. -/
def digitsNumber? (base : Nat) (digits : Text) : Option Nat :=
  if digits.isEmpty then none
  else digits.foldl (fun acc c => acc.bind fun n => (digitOf? c).bind fun d => if d < base then some (n * base + d) else none)
    (some 0)

/-- The letter that may stand behind a zero before digits of a base. -/
def baseLetter? (base : Nat) : Option Char :=
  match base with
  | 2 => some 'b'
  | 8 => some 'o'
  | 16 => some 'x'
  | _ => none

/-- The digits without the zero and the letter that say their base. -/
def dropBase (base : Nat) (t : Text) : Text :=
  match t with
  | '0' :: c :: rest => if baseLetter? base = some c.toLower then rest else t
  | _ => t

/-- How many decimal digits of any script a text begins with. -/
def leadingDigits (t : Text) : Nat := (t.takeWhile fun c => (Unicode.digitValue? c.toNat).isSome).length

/-- The integer of a base that a text denotes. The number of digits is limited in base ten. -/
def integerOf (base : Nat) (t : Text) : Except Fault Int :=
  let (negative, rest) := Decimal.takeSign (Text.trim t)
  if base = 10 ∧ Text.digitLimit < leadingDigits rest then .error (.tooManyDigits (leadingDigits rest))
  else match digitsNumber? base (dropBase base rest) with
  | some n => .ok (if negative then -(n : Int) else n)
  | none => .error (.badInteger base t)

/-- Digits between colons, counted in sixties. -/
def sixties (parts : List Int) : Int := parts.foldl (fun n part => n * 60 + part) 0

/-- The value of an integer without its sign. -/
def unsignedInteger (t : Text) : Except Fault Int :=
  match t with
  | [] => .error .emptyNumber
  | ['0'] => .ok 0
  | '0' :: 'b' :: digits => integerOf 2 digits
  | '0' :: 'x' :: digits => integerOf 16 digits
  | '0' :: _ => integerOf 8 t
  | _ => if t.elem ':' then do return sixties (← (Text.splitAt ':' t).mapM (integerOf 10)) else integerOf 10 t

/-- The value of an integer. -/
def integerValue (t : Text) : Except Fault Int :=
  let digits := t.filter (· != '_')
  match digits with
  | [] => .error .emptyNumber
  | '-' :: rest => do return -(← unsignedInteger rest)
  | _ => unsignedInteger (dropSign digits)

/-- The floating-point number that a text denotes. -/
def realOf (t : Text) : Except Fault Float :=
  match Decimal.read? t with
  | some x => .ok x
  | none => .error (.badReal t)

/-- The number of places between colons up to which the powers of sixty are floating-point numbers. -/
def placeLimit : Nat := 174

/-- Adds floating-point numbers between colons, the last first, each counted sixty times as much as the one behind it. -/
def addSixties (parts : List Float) : Except Fault Float :=
  if placeLimit < parts.length then .error .realTooLarge
  else .ok (parts.reverse.foldl (fun (acc : Float × Nat) part => (acc.1 + part * Float.ofNat acc.2, acc.2 * 60)) (0.0, 1)).1

/-- The value of a number with a point, without its sign. -/
def unsignedReal (t : Text) : Except Fault Float :=
  if t = ".inf".toList then .ok (1.0 / 0.0)
  else if t = ".nan".toList then .ok (0.0 / 0.0)
  else if t.elem ':' then do addSixties (← (Text.splitAt ':' t).mapM realOf)
  else realOf t

/-- The value of a number with a point. -/
def realValue (t : Text) : Except Fault Float :=
  let digits := Unicode.lower (t.filter (· != '_'))
  match digits with
  | [] => .error .emptyNumber
  | '-' :: rest => do return -(← unsignedReal rest)
  | _ => unsignedReal (dropSign digits)

end CriticalCss.Yaml
