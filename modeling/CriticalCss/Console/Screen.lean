import CriticalCss.Console.Table
import CriticalCss.Report

/-!
# Reports on the screen

A report is shown as a table of the selectors that were judged, rule by rule, and a summary in numbers.
-/

namespace CriticalCss

namespace Classification

/-- The colour of a classification. -/
def colour : Classification → Text
  | .keep => "green".toList
  | .drop => "red".toList
  | .test _ => "cyan".toList

/-- The short name of a classification, marked with its colour. -/
def marked (c : Classification) : Text := '[' :: c.colour ++ ']' :: c.label ++ "[/".toList ++ c.colour ++ [']']

end Classification

namespace Console

/-- A row of the table: a node that was judged. -/
structure Row where
  line : Nat
  selector : Text
  classification : Classification
  deriving DecidableEq, Repr

namespace Row

/-- The row of a node, if it was judged. -/
def ofNode? (p : Profile) (n : Node) : Option Row := (p.classification? n.index).map fun c => ⟨n.line, n.text, c⟩

/-- The text of the last column: what is looked for on the page. -/
def testText (r : Row) : Text := r.classification.tested?.getD []

/-- The cells of a row: the marked texts that the table is given. -/
def cells (r : Row) : List Text :=
  [Text.ofNat r.line, Markup.escape r.selector, r.classification.marked, Markup.escape r.testText]

end Row

/-- The rows of a report: of every rule its list, if it was judged, and those of its selectors that were. -/
def rows (r : Report) : List Row := r.stylesheet.rules.flatMap fun rule => rule.nodes.filterMap (Row.ofNode? r.profile)

/-- The table of a report. -/
def table (r : Report) : Table where
  title := "Selectors".toList
  columns :=
    [{ label := "Line".toList, justification := .right }, { label := "Selector".toList },
      { label := "Disposition".toList }, { label := "Test for".toList }]
  rows := (rows r).map (·.cells)

/-- The summary of a report in numbers. -/
def summary (r : Report) : Text :=
  Text.ofNat r.profile.testableCount ++ " selector(s) to test, ".toList ++
  Text.ofNat r.profile.forceKept.length ++ " always kept, ".toList ++
  Text.ofNat r.profile.forceDropped.length ++ " always dropped, ".toList ++
  Text.ofNat r.profile.skippedRules ++ " rule(s) skipped\n".toList

variable [Host]

/-- What is printed before the work on a file begins. -/
def announcement (path : Text) : Text :=
  Markup.printed ("\nProfiling: [cyan]".toList ++ Markup.escape path ++ "[/cyan]".toList)

/-- A report as it is printed, part by part. -/
def screen (r : Report) : List Text :=
  ['\n' :: (table r).printed, '\n' :: summary r] ++
    (if r.stylesheet.hasErrors then ["Stylesheet contains syntax errors; affected rules were skipped\n".toList] else []) ++
    [['\n']]

end Console

end CriticalCss
