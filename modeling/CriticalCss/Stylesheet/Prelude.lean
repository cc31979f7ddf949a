import CriticalCss.Stylesheet.Tree
import CriticalCss.Stylesheet.Token

/-!
# Preludes of rules

What stands before a block: selectors with commas between them, or the offsets of a keyframe block. Commas inside parentheses or
brackets belong to a selector. Comments around a selector stand beside it, comments inside it belong to it.
-/

namespace CriticalCss

namespace SyntaxTree

/-- A tree over some children; there is an error in it if it is one itself or has one in a child. -/
def build (kind : SyntaxKind) (start stop row : Nat) (children : List SyntaxTree) (named : Bool := true) : SyntaxTree :=
  .node
    { kind := kind, named := named, start := start, stop := stop, row := row
      hasError := kind == .error || children.any (·.label.hasError) }
    children

/-- The tree of a token. -/
def ofToken (t : Token) (kind : SyntaxKind := .other) (named : Bool := true) : SyntaxTree :=
  build kind t.start t.stop t.row [] named

/-- The tree of a comment. Only the form with an end mark is a comment to the grammar's other rules. -/
def ofComment (t : Token) : SyntaxTree := ofToken t (if t.kind == .comment then .comment else .other)

/-- A tree over some tokens, with the comments among them as its children. -/
def ofTokens (kind : SyntaxKind) (first : Token) (rest : List Token) : SyntaxTree :=
  build kind first.start ((rest.getLast?.getD first).stop) first.row
    (((first :: rest).filter (·.isComment)).map ofComment)

end SyntaxTree

namespace Token

/-! ## Groups -/

/-- The depth of parentheses and brackets behind a token. -/
def nesting (depth : Nat) (t : Token) : Nat :=
  if t.isMark '(' || t.isMark '[' then depth + 1
  else if t.isMark ')' || t.isMark ']' then depth - 1
  else depth

/-- The tokens between the commas that stand in no parentheses and no brackets. -/
def splitCommas (depth : Nat) : List Token → List (List Token)
  | [] => [[]]
  | t :: rest =>
    if depth == 0 && t.isMark ',' then [] :: splitCommas 0 rest
    else match splitCommas (nesting depth t) rest with
      | part :: parts => (t :: part) :: parts
      | [] => [[t]]

end Token

/-! ## Well-formed selectors -/

/-- What a selector may go on with. -/
inductive SelectorState
  /-- A simple selector has to follow. -/
  | needed
  /-- A simple selector has been read. -/
  | complete
  /-- Colons have been read that a name has to follow. -/
  | naming (colons : Nat)
  /-- The name of a pseudo part has been read, which may have arguments. -/
  | named
  /-- A dot, a number sign or an ampersand has been read that a name has to follow. -/
  | marked
  /-- Between parentheses or brackets; the depth counts those that are open inside. -/
  | inside (depth : Nat)
  | malformed
  deriving DecidableEq, Repr

namespace SelectorState

/-- Reads a token where a simple selector may begin. A combinator needs no left side, and a bar or a combinator needs a right side. -/
def begin (t : Token) : SelectorState :=
  match t.kind with
  | .word | .string => .complete
  | .mark '*' | .mark '&' => .complete
  | .mark '.' | .mark '#' => .marked
  | .mark ':' => .naming 1
  | .mark '[' => .inside 0
  | .mark '>' | .mark '+' | .mark '~' | .mark '|' => .needed
  | _ => .malformed

/-- Reads a token behind a simple selector. An ampersand is no selector of its own here but the mark of a name. -/
def extend (t : Token) : SelectorState := if t.isMark '&' then .marked else begin t

/-- Reads a token. Comments change nothing. -/
def read (s : SelectorState) (t : Token) : SelectorState :=
  if t.isComment then s
  else match s with
    | .needed => begin t
    | .complete => extend t
    | .named => if t.isMark '(' then .inside 0 else extend t
    | .marked => if t.kind == .word then .complete else .malformed
    | .naming colons =>
      if t.kind == .word then .named else if colons == 1 && t.isMark ':' then .naming 2 else .malformed
    | .inside depth =>
      if t.isMark ')' || t.isMark ']' then (if depth == 0 then .complete else .inside (depth - 1))
      else .inside (Token.nesting depth t)
    | .malformed => .malformed

/-- Whether a selector may end here. -/
def mayEnd (s : SelectorState) : Bool := s == .complete || s == .named

end SelectorState

/-- Whether some tokens are a selector. -/
def isSelector (tokens : List Token) : Bool := (tokens.foldl SelectorState.read .needed).mayEnd

/-! ## Trees of preludes -/

namespace SyntaxTree

/-- The trees of a selector or an offset and of the comments around it. -/
def ofPart (part : List Token) : List SyntaxTree :=
  let before := part.takeWhile (·.isComment)
  let rest := part.dropWhile (·.isComment)
  let after := (rest.reverse.takeWhile (·.isComment)).reverse
  let core := (rest.reverse.dropWhile (·.isComment)).reverse
  before.map ofComment ++
    (match core with
      | [] => []
      | first :: more => [ofTokens .other first more]) ++
    after.map ofComment

/-- The trees before the block of a rule set: the selectors and the comments behind them. What is no list of selectors is an error. -/
def ofPrelude (first : Token) (rest : List Token) : List SyntaxTree :=
  let all := first :: rest
  let list := (all.reverse.dropWhile (·.isComment)).reverse
  let after := (all.reverse.takeWhile (·.isComment)).reverse
  let parts := Token.splitCommas 0 list
  if parts.all isSelector then
    build .selectors first.start ((list.getLast?.getD first).stop) first.row (parts.flatMap ofPart) :: after.map ofComment
  else [ofTokens .error first rest]

/-- The trees before the block of a keyframe block. -/
def ofOffsets (tokens : List Token) : List SyntaxTree := (Token.splitCommas 0 tokens).flatMap ofPart

end SyntaxTree

end CriticalCss
