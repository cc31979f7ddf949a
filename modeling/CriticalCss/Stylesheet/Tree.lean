import CriticalCss.Text.Utf8

/-!
# Syntax trees

The tree of a stylesheet. A node covers a range of the source bytes and knows the line it starts in. Of the kinds of nodes only those
are told apart that say something about selectors, declarations or at-rules.
-/

namespace CriticalCss

/-- What a node of a syntax tree is. -/
inductive SyntaxKind
  | ruleSet
  | keyframeBlock
  | block
  /-- The selectors before a block. -/
  | selectors
  | comment
  | declaration
  | propertyName
  /-- A statement that takes no part: an import, a character set or a namespace. -/
  | passive
  /-- An at-rule of any other name. -/
  | atRule
  /-- Source that fits no rule of the grammar. -/
  | error
  | other
  deriving DecidableEq, Repr

namespace SyntaxKind

/-- The kind that the grammar gives a name to. Every name that ends in the word for a statement is an at-rule. -/
def ofName (name : Text) : SyntaxKind :=
  if name = "rule_set".toList then .ruleSet
  else if name = "keyframe_block".toList then .keyframeBlock
  else if name = "block".toList then .block
  else if name = "selectors".toList then .selectors
  else if name = "comment".toList then .comment
  else if name = "declaration".toList then .declaration
  else if name = "property_name".toList then .propertyName
  else if name = "import_statement".toList ∨ name = "charset_statement".toList ∨ name = "namespace_statement".toList then
    .passive
  else if name = "at_rule".toList ∨ "_statement".toList.isSuffixOf name then .atRule
  else if name = "ERROR".toList then .error
  else .other

end SyntaxKind

/-- What is known of a node apart from its children. -/
structure SyntaxLabel where
  kind : SyntaxKind
  /-- Whether the node is more than punctuation. -/
  named : Bool := true
  /-- Whether the grammar asks for the node and the source does not have it. -/
  missing : Bool := false
  /-- Whether an error or a missing node is somewhere in it. -/
  hasError : Bool := false
  /-- The offset of its first byte. -/
  start : Nat
  /-- The offset behind its last byte. -/
  stop : Nat
  /-- The number of line breaks before it. -/
  row : Nat
  deriving DecidableEq, Repr

/-- A syntax tree. -/
inductive SyntaxTree
  | node (label : SyntaxLabel) (children : List SyntaxTree)

namespace SyntaxTree

/-- What is known of the root of a tree. -/
def label : SyntaxTree → SyntaxLabel
  | .node label _ => label

/-- The trees below the root. -/
def children : SyntaxTree → List SyntaxTree
  | .node _ children => children

/-- What the root is. -/
def kind (t : SyntaxTree) : SyntaxKind := t.label.kind

/-- The line that the root starts in, the first being line one. -/
def line (t : SyntaxTree) : Nat := t.label.row + 1

/-- The children that are more than punctuation. -/
def namedChildren (t : SyntaxTree) : List SyntaxTree := t.children.filter (·.label.named)

/-- The first child of a kind. -/
def childOf? (kind : SyntaxKind) (t : SyntaxTree) : Option SyntaxTree := t.children.find? (·.kind == kind)

/-! ## Source text -/

/-- The bytes of a range. A range that ends before it starts has none. -/
def slice (source : List UInt8) (start stop : Nat) : List UInt8 := (source.drop start).take (stop - start)

/-- The source text of a tree, as written. -/
def text (source : List UInt8) (t : SyntaxTree) : Text :=
  Utf8.decodeTolerant (slice source t.label.start t.label.stop)

mutual

/-- The ranges of the comments in a tree, from left to right. -/
def comments : SyntaxTree → List (Nat × Nat)
  | .node label children => if label.kind = .comment then [(label.start, label.stop)] else commentsIn children

/-- The ranges of the comments in some trees. -/
def commentsIn : List SyntaxTree → List (Nat × Nat)
  | [] => []
  | t :: rest => comments t ++ commentsIn rest

end

/-- The bytes from a position up to an end, without the ranges that are cut out. -/
def cutOut (source : List UInt8) (stop : Nat) : List (Nat × Nat) → Nat → List UInt8
  | [], position => slice source position stop
  | (first, last) :: rest, position => slice source position first ++ cutOut source stop rest last

/-- The bytes of a tree without its comments. -/
def bytesWithoutComments (source : List UInt8) (t : SyntaxTree) : List UInt8 :=
  cutOut source t.label.stop t.comments t.label.start

/-- The text of a tree without its comments, in canonical form. -/
def rendered (source : List UInt8) (t : SyntaxTree) : Text :=
  Text.collapse (Utf8.decodeTolerant (t.bytesWithoutComments source))

end SyntaxTree

end CriticalCss
