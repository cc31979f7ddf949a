/-!
# Ledgers

A ledger holds one value for each of its keys. The entries stand in the order in which the keys were first written; writing to a key
again changes its value and not its place.
-/

namespace CriticalCss

/-- Keys with their values, in the order in which the keys were first written. -/
abbrev Ledger (κ α : Type) := List (κ × α)

namespace Ledger

variable {κ α : Type} [DecidableEq κ]

/-- Writes the value of a key. -/
def put (key : κ) (value : α) : Ledger κ α → Ledger κ α
  | [] => [(key, value)]
  | (k, v) :: rest => if k = key then (k, value) :: rest else (k, v) :: put key value rest

/-- The value of a key, if the key was written. -/
def find? (key : κ) : Ledger κ α → Option α
  | [] => none
  | (k, v) :: rest => if k = key then some v else find? key rest

/-- The keys, in the order in which they were first written. -/
def keys (ledger : Ledger κ α) : List κ := ledger.map (·.1)

end Ledger

end CriticalCss
