import CriticalCss.Stylesheet.Token

/-!
# The outline of a stylesheet

The tokens of a stylesheet, nested by its braces. A block that the source does not close ends with the source; a closing brace that
closes nothing is a token like any other.
-/

namespace CriticalCss

/-- The tokens of a stylesheet in their order, where a pair of braces with all that is between them is one member. -/
inductive Outline
  | done
  | token (t : Token) (rest : Outline)
  | block (opening : Token) (closing : Option Token) (inside rest : Outline)

/-- A closing brace whose opening brace is not reached yet, with the outline of what stands behind it. -/
structure ClosingBrace where
  brace : Token
  behind : Outline

namespace Outline

/-- One outline behind another. -/
def append : Outline → Outline → Outline
  | .done, more => more
  | .token t rest, more => .token t (rest.append more)
  | .block opening closing inside rest, more => .block opening closing inside (rest.append more)

/-- What is known of an outline when it is read from its end: the outline of the innermost block so far, and the closing braces around
it, the innermost first. -/
structure Reading where
  inside : Outline := .done
  awaited : List ClosingBrace := []

/-- Reads the token before those that are read. -/
def Reading.read (t : Token) (r : Reading) : Reading :=
  if t.isMark '\x7b' then
    match r.awaited with
    | [] => ⟨.block t none r.inside .done, []⟩
    | c :: outer => ⟨.block t (some c.brace) r.inside c.behind, outer⟩
  else if t.isMark '\x7d' then ⟨.done, ⟨t, r.inside⟩ :: r.awaited⟩
  else ⟨.token t r.inside, r.awaited⟩

/-- The outline of all that is read. -/
def Reading.outline (r : Reading) : Outline := r.awaited.foldl (fun before c => before.append (.token c.brace c.behind)) r.inside

/-- The outline of some tokens. -/
def ofTokens (tokens : List Token) : Outline := (tokens.foldr Reading.read {}).outline

end Outline

end CriticalCss
