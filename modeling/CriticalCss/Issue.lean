import CriticalCss.Value
import CriticalCss.Text.Utf8

/-!
# Issues of a checked value

A value that is checked against a shape is refused with a list of issues: for each part that does not fit, where it stands and what is
wrong with it.
-/

namespace CriticalCss

/-- A step from a value to one of its parts. -/
inductive PathStep
  | field (name : Text)
  | item (index : Nat)
  deriving DecidableEq, Repr

/-- What is wrong with a part. -/
inductive Complaint
  /-- A rule of the domain is broken, as the text says. -/
  | broken (rule : Text)
  | notText
  | notUnicode
  | notInteger
  | notIntegerText
  | notWhole
  | notList
  | notMapping
  | notRecord (name : Text)
  | notPath
  | missing
  | unexpected
  | noTag (field : Text)
  | unknownTag (tag field : Text) (expected : List Text)
  | notOneOf (choices : List Text)
  | below (bound : Nat)
  deriving DecidableEq, Repr

/-- A part that does not fit, and why. -/
structure Issue where
  path : List PathStep
  complaint : Complaint
  deriving DecidableEq, Repr

namespace Issue

/-- The issue of a part, seen from the value around it. -/
def within (step : PathStep) (issue : Issue) : Issue := { issue with path := step :: issue.path }

end Issue

namespace Complaint

/-- A text between single quotes. -/
def inQuotes (t : Text) : Text := '\x27' :: (t ++ ['\x27'])

/-- Choices in a row, the word "or" before the last. -/
def choiceText : List Text → Text
  | [] => []
  | [a] => inQuotes a
  | [a, b] => inQuotes a ++ " or ".toList ++ inQuotes b
  | a :: rest => inQuotes a ++ ", ".toList ++ choiceText rest

/-- The name of the kind of complaint. -/
def code : Complaint → String
  | .broken _ => "value_error"
  | .notText => "string_type"
  | .notUnicode => "string_unicode"
  | .notInteger => "int_type"
  | .notIntegerText => "int_parsing"
  | .notWhole => "int_from_float"
  | .notList => "list_type"
  | .notMapping => "model_attributes_type"
  | .notRecord _ => "model_type"
  | .notPath => "path_type"
  | .missing => "missing"
  | .unexpected => "extra_forbidden"
  | .noTag _ => "union_tag_not_found"
  | .unknownTag .. => "union_tag_invalid"
  | .notOneOf _ => "literal_error"
  | .below _ => "greater_than_equal"

/-- What the complaint says. -/
def message : Complaint → Text
  | .broken rule => "Value error, ".toList ++ rule
  | .notText => "Input should be a valid string".toList
  | .notUnicode => "Input should be a valid string, unable to parse raw data as a unicode string".toList
  | .notInteger => "Input should be a valid integer".toList
  | .notIntegerText => "Input should be a valid integer, unable to parse string as an integer".toList
  | .notWhole => "Input should be a valid integer, got a number with a fractional part".toList
  | .notList => "Input should be a valid list".toList
  | .notMapping => "Input should be a valid dictionary or object to extract fields from".toList
  | .notRecord name => "Input should be a valid dictionary or instance of ".toList ++ name
  | .notPath => "Input is not a valid path for <class 'pathlib.Path'>".toList
  | .missing => "Field required".toList
  | .unexpected => "Extra inputs are not permitted".toList
  | .noTag field => "Unable to extract tag using discriminator ".toList ++ inQuotes field
  | .unknownTag tag field expected =>
    "Input tag ".toList ++ inQuotes tag ++ " found using ".toList ++ inQuotes field ++
      " does not match any of the expected tags: ".toList ++ Text.joinWith [',', ' '] (expected.map inQuotes)
  | .notOneOf choices => "Input should be ".toList ++ choiceText choices
  | .below bound => "Input should be greater than or equal to ".toList ++ Text.ofNat bound

end Complaint

/-! ## Checking simple values -/

namespace Value

/-- The text that a value holds; bytes hold one if they encode it. -/
def asText : Value → Except Complaint Text
  | .text t => .ok t
  | .bytes data => match Utf8.decode data with
    | .ok t => .ok t
    | .error _ => .error .notUnicode
  | _ => .error .notText

/-- The integer that a text writes: a sign, digits with single low lines between them, and blanks around them. -/
def integerOfText? (t : Text) : Option Int :=
  let trimmed := Text.trim t
  let (negative, digits) : Bool × Text := match trimmed with
    | '-' :: rest => (true, rest)
    | '+' :: rest => (false, rest)
    | rest => (false, rest)
  let wellPlaced := digits.head? != some '_' && digits.getLast? != some '_' && !Text.occurs ['_', '_'] digits
  if digits.isEmpty || !wellPlaced then none
  else (Text.decimalNumber? (digits.filter (· != '_'))).map fun n => if negative then -(n : Int) else n

/-- The integer that a value holds: a number without a fraction, a truth value, or a text that writes one. -/
def asInteger : Value → Except Complaint Int
  | .int n => .ok n
  | .bool b => .ok (if b then 1 else 0)
  | .real x =>
    if x.isNaN || x.isInf then .error .notWhole
    else if x.floor == x then .ok (if x < 0 then -((-x).toUInt64.toNat : Int) else x.toUInt64.toNat)
    else .error .notWhole
  | .text t => match integerOfText? t with
    | some n => .ok n
    | none => .error .notIntegerText
  | _ => .error .notInteger

/-- An integer that is not below a bound. -/
def asAtLeast (bound : Nat) (v : Value) : Except Complaint Nat := do
  let n ← v.asInteger
  if n < bound then .error (.below bound) else .ok n.toNat

/-- One of some texts. -/
def asOneOf (choices : List Text) : Value → Except Complaint Text
  | .text t => if choices.elem t then .ok t else .error (.notOneOf choices)
  | _ => .error (.notOneOf choices)

end Value

end CriticalCss
