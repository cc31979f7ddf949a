import CriticalCss.Text.Basic

/-!
# The shortest decimal of a binary fraction

A floating-point number is shown with the fewest digits that read back to it. Every decimal between the midpoints to the two
neighbouring numbers reads back (the midpoints too when the significand is even); of the decimals of the least length that do,
the one nearest to the number is taken.
-/

namespace CriticalCss.Decimal

/-- The decimal `digits * 10 ^ exponent`. -/
structure Shortest where
  digits : Nat
  exponent : Int
  deriving DecidableEq, Repr

/-- The positive number `significand * 2 ^ exponent`, with `narrow` set when the next smaller number is only half as far away as
the next greater one. -/
structure Binary where
  significand : Nat
  exponent : Int
  narrow : Bool

/-- The binary form of the bits of a positive finite number. -/
def Binary.ofBits (bits : Nat) : Binary :=
  let fraction : Nat := bits % Nat.pow 2 52
  let exponent : Nat := bits / Nat.pow 2 52 % Nat.pow 2 11
  if exponent = 0 then ⟨fraction, -1074, false⟩
  else ⟨Nat.pow 2 52 + fraction, (exponent : Int) - 1075, fraction = 0 && exponent > 1⟩

/-- A positive quotient of natural numbers, compared with decimals by cross multiplication. -/
structure Ratio where
  num : Nat
  den : Nat

/-- Compares `digits * 10 ^ exponent` with a quotient. -/
def compareDecimal (digits : Nat) (exponent : Int) (r : Ratio) : Ordering :=
  compare (digits * Nat.pow 10 exponent.toNat * r.den) (r.num * Nat.pow 10 (-exponent).toNat)

namespace Binary

/-- A number of quarter units in the last place as a quotient. -/
def quarters (b : Binary) (n : Nat) : Ratio :=
  ⟨n * Nat.pow 2 (b.exponent - 2).toNat, Nat.pow 2 (2 - b.exponent).toNat⟩

/-- The number itself. -/
def value (b : Binary) : Ratio := b.quarters (4 * b.significand)

/-- The midpoint to the next smaller number. -/
def lower (b : Binary) : Ratio := b.quarters (4 * b.significand - (if b.narrow then 1 else 2))

/-- The midpoint to the next greater number. -/
def upper (b : Binary) : Ratio := b.quarters (4 * b.significand + 2)

/-- Whether a decimal reads back to the number. -/
def readsBack (b : Binary) (digits : Nat) (exponent : Int) : Bool :=
  let even := b.significand % 2 == 0
  let low := compareDecimal digits exponent b.lower
  let high := compareDecimal digits exponent b.upper
  (low == .gt || (even && low == .eq)) && (high == .lt || (even && high == .eq))

/-- The exponent of the leading decimal digit. -/
def leadingExponent (b : Binary) : Int :=
  let r := b.value
  if r.den ≤ r.num then ((Nat.toDigits 10 (r.num / r.den)).length : Int) - 1
  else match (List.range 400).find? (fun j => r.den ≤ r.num * Nat.pow 10 j) with
    | some j => -(j : Int)
    | none => 0

/-- Of the two decimals on either side of the number on the grid of the given exponent, the nearer one that reads back. -/
def onGrid? (b : Binary) (exponent : Int) : Option Shortest :=
  let r := b.value
  let below := r.num * Nat.pow 10 (-exponent).toNat / (r.den * Nat.pow 10 exponent.toNat)
  let above := below + 1
  match b.readsBack below exponent, b.readsBack above exponent with
  | false, false => none
  | true, false => some ⟨below, exponent⟩
  | false, true => some ⟨above, exponent⟩
  | true, true =>
    match compareDecimal (2 * below + 1) exponent ⟨2 * r.num, r.den⟩ with
    | .gt => some ⟨below, exponent⟩
    | .lt => some ⟨above, exponent⟩
    | .eq => some (if below % 2 = 0 then ⟨below, exponent⟩ else ⟨above, exponent⟩)

/-- The shortest decimal: the first grid with a hit among those of one to seventeen digits. -/
def shortest (b : Binary) : Shortest :=
  let e := b.leadingExponent
  match (List.range 17).findSome? (fun (n : Nat) => b.onGrid? (e - n)) with
  | some d => d
  | none => ⟨b.significand, 0⟩

end Binary

/-! ## Layout -/

/-- The digits without the zeros they end with, each of which raises the exponent by one. -/
def Shortest.strip (fuel : Nat) (d : Shortest) : Shortest :=
  match fuel with
  | 0 => d
  | fuel + 1 =>
    if d.digits ≠ 0 ∧ d.digits % 10 = 0 then Shortest.strip fuel ⟨d.digits / 10, d.exponent + 1⟩ else d

/-- A decimal is written positionally, with at least one digit after the point, when its leading digit stands for 10^-4 to 10^15,
and otherwise with an exponent of at least two digits. -/
def Shortest.layout (d : Shortest) : Text :=
  let d := d.strip 20
  let digits := Text.ofNat d.digits
  let leading : Int := d.exponent + digits.length - 1
  if -4 ≤ leading ∧ leading < 16 then
    if 0 ≤ d.exponent then digits ++ List.replicate d.exponent.toNat '0' ++ ['.', '0']
    else if 0 ≤ leading then digits.take (leading.toNat + 1) ++ '.' :: digits.drop (leading.toNat + 1)
    else '0' :: '.' :: (List.replicate (-leading - 1).toNat '0' ++ digits)
  else
    let mantissa := match digits with
      | [] => []
      | [c] => [c]
      | c :: rest => c :: '.' :: rest
    let size := Text.ofNat leading.natAbs
    mantissa ++ 'e' :: (if leading < 0 then '-' else '+') :: (List.replicate (2 - size.length) '0' ++ size)

/-- The text of a floating-point number. -/
def ofFloat (x : Float) : Text :=
  let bits := x.toBits.toNat
  let negative := bits / Nat.pow 2 63 = 1
  let magnitude := bits % Nat.pow 2 63
  if x.isNaN then ['n', 'a', 'n']
  else
    let body : Text :=
      if magnitude = 0 then ['0', '.', '0']
      else if magnitude / Nat.pow 2 52 = 2047 then ['i', 'n', 'f']
      else (Binary.ofBits magnitude).shortest.layout
    if negative then '-' :: body else body

end CriticalCss.Decimal
