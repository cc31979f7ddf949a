import CriticalCss.Text.Basic

/-!
# Classifications

What happens to a selector when the critical part of a stylesheet is cut out: it always stays, it always goes, or a text is looked for
on the page and the answer decides.
-/

namespace CriticalCss

/-- What happens to a selector. -/
inductive Classification
  | keep
  | drop
  /-- The selector stays if the page has an element for this text. -/
  | test (selector : Text)
  deriving DecidableEq, Repr

namespace Classification

/-- The text to look for, if there is one. -/
def tested? : Classification → Option Text
  | .test t => some t
  | _ => none

/-- The short name of a classification. -/
def label : Classification → Text
  | .keep => "keep".toList
  | .drop => "drop".toList
  | .test _ => "test".toList

/-- The answer for a selector once it is known which texts are present on the page. -/
def resolve (present : List Text) : Classification → Bool
  | .keep => true
  | .drop => false
  | .test t => present.elem t

end Classification

end CriticalCss
