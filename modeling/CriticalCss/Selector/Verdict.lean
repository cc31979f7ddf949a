import CriticalCss.Selector.Pseudo
import CriticalCss.Classification
import CriticalCss.Pattern.Basic

/-!
# The verdict on a selector

A selector is judged by its trimmed text. The patterns of the caller come first, those that keep before those that drop. Then a
selector for what the reader has marked is dropped, and one that is nothing but pseudo parts is kept, because it can affect what is
seen although no element on the page answers to it. What is left is looked for on the page, without the pseudo parts that the page
cannot answer.
-/

namespace CriticalCss

variable [Host]

/-- The patterns by which a caller forces selectors in or out. -/
structure ForceLists where
  /-- Selectors to keep. -/
  keep : List Pattern := []
  /-- Selectors to drop, unless they are to be kept. -/
  drop : List Pattern := []
  deriving DecidableEq

namespace Selector

/-- What decides about a selector. -/
inductive Verdict
  | forcedIn
  | forcedOut
  /-- It has no pseudo part. -/
  | ordinary
  | selection
  | purePseudo
  /-- It has pseudo parts, and something besides them. -/
  | mixed
  deriving DecidableEq, Repr

/-- The verdict on a trimmed selector. -/
def verdict (force : ForceLists) (candidate : Text) : Verdict :=
  if Pattern.anySelects force.keep candidate then .forcedIn
  else if Pattern.anySelects force.drop candidate then .forcedOut
  else if !candidate.elem ':' then .ordinary
  else if mentionsSelection candidate then .selection
  else if isPurePseudo (stripAllowed candidate) then .purePseudo
  else .mixed

/-- What a verdict on a trimmed selector means for it. -/
def Verdict.classification (candidate : Text) : Verdict → Classification
  | .forcedIn => .keep
  | .forcedOut => .drop
  | .ordinary => .test candidate
  | .selection => .drop
  | .purePseudo => .keep
  | .mixed => .test (stripVendor (stripAllowed candidate))

/-- What happens to a selector. -/
def classify (force : ForceLists) (selector : Text) : Classification :=
  (verdict force (Text.trim selector)).classification (Text.trim selector)

end Selector

end CriticalCss
