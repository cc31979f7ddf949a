import CriticalCss.Stylesheet.Basic
import CriticalCss.Stylesheet.Draft
import CriticalCss.Journal

/-!
# The arena of a stylesheet

Drafts of rules are placed in the arena one after the other. Placing a draft gives the next free numbers to its selector list and to
its selectors, in this order.
-/

namespace CriticalCss

/-- Numbered nodes and the rules they belong to. -/
structure Arena where
  nodes : List Node := []
  rules : List Rule := []
  deriving DecidableEq, Repr

namespace Arena

/-- Adds a node under the next free number. -/
def add (a : Arena) (kind : NodeKind) (f : Fragment) : Node × Arena :=
  let node : Node := ⟨a.nodes.length, kind, f.text, f.line⟩
  (node, { a with nodes := a.nodes ++ [node] })

/-- Adds the selectors of a rule. -/
def addSelectors (a : Arena) : List Fragment → List Node × Arena
  | [] => ([], a)
  | f :: rest =>
    let (node, a) := a.add .selector f
    let (nodes, a) := addSelectors a rest
    (node :: nodes, a)

/-- Adds a rule whose nodes are in the arena. -/
def addRule (a : Arena) (r : Rule) : Arena := { a with rules := a.rules ++ [r] }

/-- Places a draft: its nodes first and then the rule. -/
def place (a : Arena) (d : Draft) : Arena :=
  match d.prelude with
  | none => a.addRule { atRule := d.atRule, properties := d.properties, line := d.line }
  | some p =>
    let (list, a) := a.add .selectorList p.list
    let (selectors, a) := a.addSelectors p.selectors
    a.addRule { atRule := d.atRule, list := some list, selectors := selectors, properties := d.properties, line := d.line }

/-- The arena of some drafts. -/
def ofDrafts (drafts : List Draft) : Arena := drafts.foldl place {}

/-- The arena of a syntax tree. -/
def ofTree (source : List UInt8) (root : SyntaxTree) : Arena := ofDrafts (root.drafts source)

end Arena

namespace Stylesheet

/-- The stylesheet of a syntax tree. -/
def ofTree (path : Option Text) (source : List UInt8) (root : SyntaxTree) : Stylesheet :=
  let arena := Arena.ofTree source root
  { path := path, rules := arena.rules, nodes := arena.nodes, hasErrors := root.label.hasError }

end Stylesheet

/-- The notes left by placing drafts: one for each malformed prelude. -/
def Arena.notes (drafts : List Draft) : Journal :=
  (drafts.filter (·.prelude.isNone)).map fun d => .malformedPrelude d.line

/-- The note left by a syntax tree with errors. -/
def Stylesheet.errorNotes (path : Option Text) (root : SyntaxTree) : Journal :=
  if root.label.hasError then [.syntaxErrors path] else []

/-- The notes left by reading a stylesheet whose source has a syntax tree. -/
def Stylesheet.readingNotes (path : Option Text) (source : List UInt8) (root : SyntaxTree) : Journal :=
  let arena := Arena.ofTree source root
  errorNotes path root ++ Arena.notes (root.drafts source) ++ [.collected arena.rules.length arena.nodes.length]

end CriticalCss
