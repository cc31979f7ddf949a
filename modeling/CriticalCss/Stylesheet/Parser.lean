import CriticalCss.Stylesheet.Outline
import CriticalCss.Stylesheet.Prelude

/-!
# Reading a stylesheet

From the outline of a stylesheet to its syntax tree. A run of tokens that ends with a semicolon is a declaration or a statement; one
that ends with a block is a rule set or an at-rule. Blocks that the source does not close are closed where the source ends; but if a
declaration breaks off there as well, none of the rules around it can be made whole, and what was read of them is an error.
-/

namespace CriticalCss

namespace SyntaxTree

/-! ## Statements -/

/-- The names of the at-rules that take no part. -/
def passiveNames : List Text := ["@import".toList, "@charset".toList, "@namespace".toList]

/-- The kind of the at-rule of a name. -/
def atRuleKind (name : Text) : SyntaxKind := if passiveNames.elem name then .passive else .atRule

/-- Whether the at-rule of a name holds keyframes to the grammar: the word for them, behind lower-case letters and hyphens if any. -/
def holdsKeyframes (name : Text) : Bool :=
  match name with
  | '@' :: rest => keyframesSuffix.isSuffixOf rest && rest.all fun c => c.isLower || c == '-'
  | _ => false
where
  /-- The word for keyframes. -/
  keyframesSuffix : Text := "keyframes".toList

/-- A mark that is not there, as a child of what it belongs to. -/
def missingMark (place row : Nat) : SyntaxTree :=
  .node { kind := .other, named := false, missing := true, hasError := true, start := place, stop := place, row := row } []

/-- The tree of some tokens in a block that end with a semicolon or with the block. Only a declaration may do without a semicolon. -/
def ofStatement (source : List UInt8) (first : Token) (rest : List Token) (ended : Bool) (stop : Nat) : SyntaxTree :=
  let comments := (rest.filter (·.isComment)).map ofComment
  if first.kind == .atWord then
    build (atRuleKind ((ofToken first).text source)) first.start stop first.row
      (ofToken first .other false :: (comments ++ if ended then [] else [missingMark stop first.row]))
  else if first.kind == .word && ((rest.filter (!·.isComment)).head?.map (·.isMark ':')).getD false then
    build .declaration first.start stop first.row (ofToken first .propertyName :: comments)
  else ofTokens .error first rest

/-! ## Blocks -/

/-- The tree of a block. A closing brace that is not there is a missing child. -/
def ofBlock (opening : Token) (closing : Option Token) (stop : Nat) (inside : List SyntaxTree) : SyntaxTree :=
  match closing with
  | some brace => build .block opening.start brace.stop opening.row inside
  | none => build .block opening.start stop opening.row (inside ++ [missingMark stop opening.row])

/-- Where a block ends. -/
def blockStop (opening : Token) (closing : Option Token) (inside : List SyntaxTree) : Nat :=
  match closing with
  | some brace => brace.stop
  | none => (inside.getLast?.map (·.label.stop)).getD opening.stop

/-- The tree of a block and of what stands before it. -/
def ofRule (source : List UInt8) (first : Token) (rest : List Token) (opening : Token) (closing : Option Token)
    (inside : List SyntaxTree) : SyntaxTree :=
  let stop := blockStop opening closing inside
  let block := ofBlock opening closing stop inside
  if first.kind == .atWord then
    build (atRuleKind ((ofToken first).text source)) first.start stop first.row
      (ofToken first .other false :: ((rest.filter (·.isComment)).map ofComment ++ [block]))
  else build .ruleSet first.start stop first.row (ofPrelude first rest ++ [block])

/-- The tree of a keyframe block. -/
def ofKeyframe (first : Token) (rest : List Token) (opening : Token) (closing : Option Token) (inside : List SyntaxTree) :
    SyntaxTree :=
  let stop := blockStop opening closing inside
  build .keyframeBlock first.start stop first.row (ofOffsets (first :: rest) ++ [ofBlock opening closing stop inside])

/-- The tree of an at-rule that holds keyframes. -/
def ofKeyframes (first : Token) (rest : List Token) (opening : Token) (closing : Option Token) (inside : List SyntaxTree) :
    SyntaxTree :=
  let stop := blockStop opening closing inside
  let list := ofBlock opening closing stop inside
  build .atRule first.start stop first.row
    (ofToken first .other false :: ((rest.filter (·.isComment)).map ofComment ++
      [.node { list.label with kind := .other } list.children]))

/-! ## Whole stylesheets -/

/-- What a block holds: keyframe blocks, or rules and declarations. -/
inductive Content
  | rules
  | keyframes
  deriving DecidableEq

/-- What is being read of a statement: its tokens from last to first, and the depth of its parentheses and brackets. -/
structure Pending where
  tokens : List Token := []
  depth : Nat := 0

/-- Adds a token to a statement. -/
def Pending.push (p : Pending) (t : Token) : Pending := ⟨t :: p.tokens, Token.nesting p.depth t⟩

/-- What the block behind a statement holds. -/
def Pending.content (source : List UInt8) (p : Pending) : Content :=
  match p.tokens.getLast? with
  | some first => if first.kind == .atWord && holdsKeyframes ((ofToken first).text source) then .keyframes else .rules
  | none => .rules

/-- The tree of a statement with a block. -/
def Pending.rule (source : List UInt8) (content : Content) (p : Pending) (opening : Token) (closing : Option Token)
    (inside : List SyntaxTree) : SyntaxTree :=
  match p.tokens.reverse with
  | [] => build .error opening.start (blockStop opening closing inside) opening.row inside
  | first :: rest =>
    match content, p.content source with
    | .keyframes, _ => ofKeyframe first rest opening closing inside
    | .rules, .keyframes => ofKeyframes first rest opening closing inside
    | .rules, .rules => ofRule source first rest opening closing inside

/-- The trees of a level of the outline, and whether the level ends with a declaration, or the beginning of one, that has no semicolon. -/
structure Level where
  trees : List SyntaxTree
  breaksOff : Bool

/-- The trees of a level of the outline, behind the tokens of a statement that is being read. -/
def ofOutline (source : List UInt8) (content : Content) (p : Pending) : Outline → Level
  | .done =>
    match p.tokens.reverse with
    | [] => ⟨[], false⟩
    | first :: rest => ⟨[ofStatement source first rest false ((p.tokens.head?.getD first).stop)], first.kind != .atWord⟩
  | .token t more =>
    if p.tokens.isEmpty && t.isComment then
      let rest := ofOutline source content {} more
      ⟨ofComment t :: rest.trees, rest.breaksOff⟩
    else if p.depth == 0 && t.isMark ';' then
      let rest := ofOutline source content {} more
      match p.tokens.reverse with
      | [] => ⟨ofToken t .error :: rest.trees, rest.breaksOff⟩
      | first :: tokens => ⟨ofStatement source first tokens true t.stop :: rest.trees, rest.breaksOff⟩
    else ofOutline source content (p.push t) more
  | .block opening closing inside more =>
    let level := ofOutline source (p.content source) {} inside
    let rest := ofOutline source content {} more
    if closing.isNone && level.breaksOff then
      ⟨[build .error opening.start (blockStop opening closing level.trees) opening.row level.trees], true⟩
    else ⟨p.rule source content opening closing level.trees :: rest.trees, rest.breaksOff⟩

/-- The syntax tree of a stylesheet. What breaks off at its end is an error. -/
def ofSource (source : List UInt8) : SyntaxTree :=
  let level := ofOutline source .rules {} (Outline.ofTokens (Token.ofSource source))
  let last := if level.breaksOff then level.trees.getLast? else none
  build .other 0 source.length 0
    (match last with
      | some t => level.trees.dropLast ++ [build .error t.label.start t.label.stop t.label.row [t]]
      | none => level.trees)

end SyntaxTree

end CriticalCss
