import CriticalCss.Stylesheet.Basic
import CriticalCss.Journal
import CriticalCss.Keyword
import CriticalCss.Ledger

/-!
# Profiles

The profile of a stylesheet says for every selector what happens to it, and which texts have to be looked for on the page. Rules for
keyframes and rules with a malformed prelude are skipped; a rule that places its elements in a grid is judged as a whole, because
its selectors only make sense together.
-/

namespace CriticalCss

/-- What happens to the selectors of a stylesheet. -/
structure Profile where
  /-- The distinct texts to look for. -/
  selectors : List Text := []
  /-- The numbers of the nodes that were judged, with what happens to them. -/
  classifications : Ledger Nat Classification := []
  /-- How many rules were skipped. -/
  skippedRules : Nat := 0
  deriving DecidableEq, Repr

namespace Profile

/-- Records what happens to a node. -/
def record (p : Profile) (index : Nat) (c : Classification) : Profile :=
  { p with
    classifications := p.classifications.put index c
    selectors := match c.tested? with
      | some t => if p.selectors.elem t then p.selectors else p.selectors ++ [t]
      | none => p.selectors }

/-- What happens to a node, if it was judged. -/
def classification? (p : Profile) (index : Nat) : Option Classification := p.classifications.find? index

/-- Whether a node stays, once it is known which texts are present on the page. -/
def isKept (p : Profile) (index : Nat) (present : List Text) : Option Bool :=
  (p.classification? index).map (·.resolve present)

/-- The number of texts to look for. -/
def testableCount (p : Profile) : Nat := p.selectors.length

/-- The numbers of the nodes with a classification. -/
def indicesOf (c : Classification) (p : Profile) : List Nat := (p.classifications.filter (·.2 == c)).map (·.1)

/-- The numbers of the nodes that always stay. -/
def forceKept (p : Profile) : List Nat := p.indicesOf .keep

/-- The numbers of the nodes that always go. -/
def forceDropped (p : Profile) : List Nat := p.indicesOf .drop

end Profile

/-! ## Rules -/

variable [Host]

/-- How a rule is judged. -/
inductive Treatment
  /-- Its selectors are offsets of keyframes. -/
  | keyframes
  /-- What stands before its block is malformed. -/
  | malformed
  /-- As a whole, by its selector list. -/
  | whole (list : Node)
  /-- Selector by selector. -/
  | parts (selectors : List Node)
  deriving DecidableEq, Repr

namespace Rule

/-- How a rule is judged. -/
def treatment (r : Rule) : Treatment :=
  if isKeyframes r.atRule then .keyframes
  else match r.list with
    | none => .malformed
    | some list => if r.declares gridArea then .whole list else .parts r.selectors

/-- The classifications that a rule leads to, in the order in which they are recorded. -/
def verdicts (force : ForceLists) (r : Rule) : List (Nat × Classification) :=
  match r.treatment with
  | .keyframes | .malformed => []
  | .whole list => [(list.index, .test list.text)]
  | .parts selectors => selectors.map fun n => (n.index, Selector.classify force n.text)

/-- Whether a rule is skipped. -/
def isSkipped (r : Rule) : Bool :=
  match r.treatment with
  | .keyframes | .malformed => true
  | _ => false

/-- The notes left by judging a rule. -/
def notes (force : ForceLists) (r : Rule) : Journal :=
  match r.treatment with
  | .keyframes => []
  | .malformed => [.skippedMalformed r.line]
  | .whole list => [.wholeList list.text]
  | .parts selectors => selectors.flatMap fun n => Selector.notes force n.text

end Rule

namespace Profile

/-- Records several classifications. -/
def recordAll (p : Profile) (verdicts : List (Nat × Classification)) : Profile :=
  verdicts.foldl (fun p v => p.record v.1 v.2) p

/-- Adds a rule to a profile. -/
def addRule (force : ForceLists) (p : Profile) (r : Rule) : Profile :=
  if r.isSkipped then { p with skippedRules := p.skippedRules + 1 } else p.recordAll (r.verdicts force)

/-- The profile of some rules. -/
def ofRules (force : ForceLists) (rules : List Rule) : Profile := rules.foldl (addRule force) {}

/-- The notes left by making the profile of some rules. -/
def notes (force : ForceLists) (rules : List Rule) : Journal :=
  let profile := ofRules force rules
  .profiling rules.length :: (rules.flatMap (·.notes force) ++
    [.profiled profile.classifications.length profile.testableCount])

end Profile

end CriticalCss
