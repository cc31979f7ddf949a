import CriticalCss.Text.Basic
import CriticalCss.Ledger

/-!
# JSON values

The values of JSON. The members of an object stand in the order in which they are written.
-/

namespace CriticalCss

/-- A JSON value. Numbers without a point or an exponent are integers. -/
inductive Json
  | null
  | bool (b : Bool)
  | int (n : Int)
  | real (x : Float)
  | text (t : Text)
  | list (items : List Json)
  | object (members : List (Text × Json))
  deriving Inhabited

namespace Json

/-- The member of an object with the given key. -/
def member? (key : Text) : Json → Option Json
  | .object members => Ledger.find? key members
  | _ => none

/-- The value of a text literal. -/
def ofString (s : String) : Json := .text s.toList

end Json

end CriticalCss
