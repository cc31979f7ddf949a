import CriticalCss.Profile
import CriticalCss.Json.Printer

/-!
# The document of a profile

A profile written as JSON: the texts to look for, the rules with what happens to their selectors, and a summary in numbers. Rules of
which nothing was judged are left out.
-/

namespace CriticalCss

/-- An entry of the document: a node that was judged. -/
structure DocumentEntry where
  index : Nat
  selector : Text
  classification : Classification
  deriving DecidableEq, Repr

namespace DocumentEntry

/-- The entry of a node, if it was judged. -/
def ofNode? (p : Profile) (n : Node) : Option DocumentEntry :=
  (p.classification? n.index).map fun c => ⟨n.index, n.text, c⟩

/-- An entry as JSON. The text to look for is null if there is none. -/
def toJson (e : DocumentEntry) : Json :=
  .object
    [("index".toList, .int e.index),
     ("selector".toList, .text e.selector),
     ("disposition".toList, .text e.classification.label),
     ("test".toList, match e.classification.tested? with
       | some t => .text t
       | none => .null)]

end DocumentEntry

/-- A rule of the document. -/
structure DocumentRule where
  line : Nat
  atRule : Option Text
  entries : List DocumentEntry
  deriving DecidableEq, Repr

/-- A text as JSON, null if there is none. -/
def Json.ofText? : Option Text → Json
  | some t => .text t
  | none => .null

namespace DocumentRule

/-- The nodes of a rule that were judged: the whole list alone if it was, else the selectors. -/
def entriesOf (p : Profile) (r : Rule) : List DocumentEntry :=
  match r.list.bind (DocumentEntry.ofNode? p) with
  | some e => [e]
  | none => r.selectors.filterMap (DocumentEntry.ofNode? p)

/-- A rule with what was judged of it. -/
def ofRule (p : Profile) (r : Rule) : DocumentRule := ⟨r.line, r.atRule, entriesOf p r⟩

/-- A rule as JSON. -/
def toJson (r : DocumentRule) : Json :=
  .object
    [("line".toList, .int r.line),
     ("at_rule".toList, Json.ofText? r.atRule),
     ("selectors".toList, .list (r.entries.map (·.toJson)))]

end DocumentRule

/-- The document of a profile. -/
structure Document where
  path : Option Text
  /-- The texts to look for, in the order of code points. -/
  testable : List Text
  rules : List DocumentRule
  /-- How many nodes always stay. -/
  forceKept : Nat
  /-- How many nodes always go. -/
  forceDropped : Nat
  skippedRules : Nat
  deriving DecidableEq, Repr

namespace Document

/-- The document of a stylesheet and its profile. -/
def ofProfile (s : Stylesheet) (p : Profile) : Document where
  path := s.path
  testable := p.selectors.mergeSort fun a b => !Text.precedes b a
  rules := (s.rules.map (DocumentRule.ofRule p)).filter fun r => !r.entries.isEmpty
  forceKept := p.forceKept.length
  forceDropped := p.forceDropped.length
  skippedRules := p.skippedRules

/-- The number of entries. -/
def selectorCount (d : Document) : Nat := (d.rules.flatMap (·.entries)).length

/-- The document as JSON. -/
def toJson (d : Document) : Json :=
  .object
    [("path".toList, Json.ofText? d.path),
     ("testable_selectors".toList, .list (d.testable.map .text)),
     ("rules".toList, .list (d.rules.map (·.toJson))),
     ("summary".toList, .object
       [("selectors".toList, .int d.selectorCount),
        ("testable".toList, .int d.testable.length),
        ("force_kept".toList, .int d.forceKept),
        ("force_dropped".toList, .int d.forceDropped),
        ("skipped_rules".toList, .int d.skippedRules)])]

end Document

end CriticalCss
