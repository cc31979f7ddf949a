import CriticalCss.Text.Basic

/-!
# Stylesheets

A stylesheet as far as its selectors go: an arena of numbered selectors and selector lists, and the rules they belong to. The arena
holds a selector list as one node and each of its selectors as another, so that a rule can be judged either way.
-/

namespace CriticalCss

/-- What a node of the arena stands for. -/
inductive NodeKind
  | selector
  | selectorList
  deriving DecidableEq, Repr

/-- The name of a kind of node. -/
def NodeKind.name : NodeKind → Text
  | .selector => "selector".toList
  | .selectorList => "selector_list".toList

/-- The kind of node that has a name. -/
def NodeKind.ofName? (name : Text) : Option NodeKind :=
  [NodeKind.selector, .selectorList].find? (·.name == name)

/-- A selector or a whole selector list. -/
structure Node where
  /-- The number by which the node is known. -/
  index : Nat
  kind : NodeKind
  text : Text
  line : Nat := 1
  deriving DecidableEq, Repr

/-- The name of the property that makes a rule stand or fall as a whole. -/
def gridArea : Text := ['g', 'r', 'i', 'd', '-', 'a', 'r', 'e', 'a']

/-- A rule with its selectors and the properties that its own block declares. -/
structure Rule where
  /-- The name of the nearest at-rule around it. -/
  atRule : Option Text := none
  /-- The whole selector list, unless what stands before the block is malformed. -/
  list : Option Node := none
  selectors : List Node := []
  properties : List Text := []
  line : Nat := 1
  deriving DecidableEq, Repr

namespace Rule

/-- Whether the rule has a selector list. -/
def isWellFormed (r : Rule) : Bool := r.list.isSome

/-- Whether the block of the rule declares a property. -/
def declares (r : Rule) (property : Text) : Bool := r.properties.elem property

/-- The nodes of a rule: its list and then its selectors. -/
def nodes (r : Rule) : List Node := r.list.toList ++ r.selectors

end Rule

/-- A stylesheet. -/
structure Stylesheet where
  path : Option Text := none
  rules : List Rule := []
  /-- The arena. -/
  nodes : List Node := []
  /-- Whether some of the source fits no rule of the grammar. -/
  hasErrors : Bool := false
  deriving DecidableEq, Repr

/-- The number of single selectors in the arena. -/
def Stylesheet.selectorCount (s : Stylesheet) : Nat := s.nodes.countP (·.kind == .selector)

end CriticalCss
