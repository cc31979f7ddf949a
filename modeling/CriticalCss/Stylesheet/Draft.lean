import CriticalCss.Stylesheet.Tree

/-!
# Drafts of rules

The rules of a syntax tree before their selectors are numbered. A rule is found at each place where a rule set or a keyframe block
stands, in the order of the source; a rule set is looked into for the rules nested in its block, a keyframe block is not.
-/

namespace CriticalCss

/-- A text and the line it starts in. -/
structure Fragment where
  text : Text
  line : Nat
  deriving DecidableEq, Repr

/-- What stands before a block: a selector list and its selectors. -/
structure Prelude where
  list : Fragment
  selectors : List Fragment
  deriving DecidableEq, Repr

/-- A rule whose selectors have no numbers yet. -/
structure Draft where
  atRule : Option Text
  /-- Nothing if what stands before the block is malformed. -/
  prelude : Option Prelude
  properties : List Text
  line : Nat
  deriving DecidableEq, Repr

/-- A place where a rule stands, with the name of the nearest at-rule around it. -/
structure Site where
  tree : SyntaxTree
  atRule : Option Text

namespace SyntaxTree

/-! ## Places of rules -/

/-- The name of an at-rule: what follows the at sign of its first token. -/
def atRuleName? (source : List UInt8) (t : SyntaxTree) : Option Text :=
  if t.kind = .atRule then
    match t.children with
    | [] => none
    | first :: _ => match first.text source with
      | '@' :: c :: rest => some (c :: rest)
      | _ => none
  else none

mutual

/-- The places of the rules in a tree, under the name of the nearest at-rule around it. -/
def sites (source : List UInt8) (atRule : Option Text) : SyntaxTree → List Site
  | .node label children =>
    match label.kind with
    | .comment | .passive => []
    | .ruleSet => ⟨.node label children, atRule⟩ :: sitesInBlock source atRule children
    | .keyframeBlock => [⟨.node label children, atRule⟩]
    | _ => sitesIn source ((SyntaxTree.atRuleName? source (.node label children)).or atRule) children

/-- The places of the rules in those of some trees that are more than punctuation. -/
def sitesIn (source : List UInt8) (atRule : Option Text) : List SyntaxTree → List Site
  | [] => []
  | t :: rest => if t.label.named then sites source atRule t ++ sitesIn source atRule rest else sitesIn source atRule rest

/-- The places of the rules in the first block among some trees. -/
def sitesInBlock (source : List UInt8) (atRule : Option Text) : List SyntaxTree → List Site
  | [] => []
  | t :: rest => if t.kind = .block then sites source atRule t else sitesInBlock source atRule rest

end

/-! ## Properties -/

/-- The names of the properties that the declarations of a block give, as they are written. -/
def declaredProperties (source : List UInt8) (block : SyntaxTree) : List Text :=
  (block.namedChildren.filter (·.kind == .declaration)).filterMap fun d =>
    (d.childOf? .propertyName).map (·.text source)

/-- The names of the properties that the block of a rule declares. -/
def properties (source : List UInt8) (rule : SyntaxTree) : List Text :=
  match rule.childOf? .block with
  | none => []
  | some block => declaredProperties source block

/-! ## Preludes -/

/-- A tree as a fragment, without its comments. -/
def fragment (source : List UInt8) (t : SyntaxTree) : Fragment := ⟨t.rendered source, t.line⟩

/-- Whether something before the block of a rule set is malformed. -/
def hasMalformedPrelude (rule : SyntaxTree) : Bool :=
  rule.children.any fun t => t.kind != .block && (t.kind == .error || t.label.missing || t.label.hasError)

/-- The prelude of a rule set, unless it is malformed. -/
def ruleSetPrelude? (source : List UInt8) (rule : SyntaxTree) : Option Prelude :=
  match rule.childOf? .selectors with
  | none => none
  | some selectors =>
    if rule.hasMalformedPrelude then none
    else some
      { list := selectors.fragment source
        selectors := (selectors.namedChildren.filter (·.kind != .comment)).map (·.fragment source) }

/-- The prelude of a keyframe block: its offsets, and as their list the offsets with commas between them. -/
def keyframePrelude (source : List UInt8) (rule : SyntaxTree) : Prelude :=
  let offsets := (rule.namedChildren.filter fun t => t.kind != .block && t.kind != .comment).map (·.fragment source)
  { list := ⟨Text.joinWith [',', ' '] (offsets.map (·.text)), rule.line⟩, selectors := offsets }

end SyntaxTree

/-! ## Drafts -/

/-- The draft of the rule at a place. -/
def Site.draft (source : List UInt8) (site : Site) : Draft where
  atRule := site.atRule
  prelude :=
    if site.tree.kind = .keyframeBlock then some (site.tree.keyframePrelude source) else site.tree.ruleSetPrelude? source
  properties := site.tree.properties source
  line := site.tree.line

/-- The drafts of the rules in a tree. -/
def SyntaxTree.drafts (source : List UInt8) (root : SyntaxTree) : List Draft :=
  (root.sites source none).map (·.draft source)

end CriticalCss
