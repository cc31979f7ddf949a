import CriticalCss.Text.Basic

/-!
# Similar names

A name that is not known is compared with the names that are, so that a slip of the keys can be pointed out. Two names are the more
similar the more code points they have in common: those of the longest part that stands in both, and then those that the rests before
it and the rests behind it have in common.
-/

namespace CriticalCss.Similar

/-- The length of the longest text that both texts begin with. -/
def commonStart : Text → Text → Nat
  | a :: as, b :: bs => if a = b then commonStart as bs + 1 else 0
  | _, _ => 0

/-- A part that stands in two texts: where it begins in each, and its length. -/
structure Match where
  first : Nat
  second : Nat
  length : Nat
  deriving DecidableEq, Repr

/-- The longest part that stands in both texts; of several the one that begins first. -/
def longest (a b : Text) : Match :=
  (List.range a.length).foldl (fun best i =>
    (List.range b.length).foldl (fun (best : Match) j =>
      let n := commonStart (a.drop i) (b.drop j)
      if n > best.length then ⟨i, j, n⟩ else best) best) ⟨0, 0, 0⟩

/-- How many code points two texts have in common. The fuel bounds the number of parts. -/
def inCommon : Nat → Text → Text → Nat
  | 0, _, _ => 0
  | fuel + 1, a, b =>
    let m := longest a b
    if m.length = 0 then 0
    else
      inCommon fuel (a.take m.first) (b.take m.second) + m.length +
        inCommon fuel (a.drop (m.first + m.length)) (b.drop (m.second + m.length))

/-- A candidate with the code points it has in common with a name, and the code points of both. -/
structure Candidate where
  name : Text
  shared : Nat
  total : Nat
  deriving DecidableEq, Repr

namespace Candidate

/-- A candidate for a name. -/
def ofName (name candidate : Text) : Candidate :=
  ⟨candidate, inCommon (candidate.length + 1) candidate name, candidate.length + name.length⟩

/-- Whether a candidate is similar: at least three code points in five are shared. -/
def isSimilar (c : Candidate) : Bool := 3 * c.total ≤ 10 * c.shared

/-- Whether a candidate is named before another: the more similar one, or of two that are equally similar the later name. -/
def isBefore (c d : Candidate) : Bool :=
  if c.shared * d.total = d.shared * c.total then !Text.precedes c.name d.name
  else d.shared * c.total < c.shared * d.total

end Candidate

/-- The names that are similar to a name, at most three, in the order of code points. -/
def names (name : Text) (candidates : List Text) : List Text :=
  let found := (candidates.map (Candidate.ofName name)).filter (·.isSimilar)
  (((found.mergeSort Candidate.isBefore).take 3).map (·.name)).mergeSort fun a b => !Text.precedes b a

end CriticalCss.Similar
