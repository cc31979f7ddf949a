import CriticalCss.Selector.Verdict

/-!
# The journal

What is noted while a stylesheet is read and its selectors are judged. Every note has a cause; its weight and its wording follow from
the cause. A log shows the notes of some weight and more.
-/

namespace CriticalCss

/-- How much a note matters. -/
inductive Weight
  | detail
  | progress
  | warning
  deriving DecidableEq, Repr

/-- What a weight is called in a log. -/
def Weight.name : Weight → String
  | .detail => "DEBUG"
  | .progress => "INFO"
  | .warning => "WARNING"

/-- Which notes a log shows. -/
inductive LogLevel
  | debug
  | info
  | warning
  | error
  | critical
  deriving DecidableEq, Repr

/-- Whether notes of a weight are shown. There are none that are heavier than warnings. -/
def LogLevel.admits : LogLevel → Weight → Bool
  | .debug, _ => true
  | .info, weight => weight != .detail
  | .warning, weight => weight == .warning
  | .error, _ | .critical, _ => false

/-- What is noted. -/
inductive Note
  | forcedIn (candidate : Text)
  | forcedOut (candidate : Text)
  | selection (candidate : Text)
  | purePseudo (candidate : Text)
  | malformedPrelude (line : Nat)
  | syntaxErrors (path : Option Text)
  | collected (rules nodes : Nat)
  | readingFile (path : Text)
  | readFile (path : Text)
  | profiling (rules : Nat)
  | skippedMalformed (line : Nat)
  | wholeList (list : Text)
  | profiled (nodes testable : Nat)
  | started (path : Text)
  | parseStage
  | parsed (rules selectors : Nat)
  | profileStage
  | patternsLoaded (keep drop : Nat) (path : Text)
  | finished (testable kept dropped skipped : Nat)
  deriving DecidableEq, Repr

/-- Notes in the order in which they were made. -/
abbrev Journal := List Note

namespace Note

/-- The weight of a note. -/
def weight : Note → Weight
  | .syntaxErrors _ => .warning
  | .started _ | .parseStage | .parsed .. | .profileStage | .patternsLoaded .. | .finished .. => .progress
  | _ => .detail

/-- The wording of a note. -/
def message : Note → Text
  | .forcedIn t => "forceInclude ".toList ++ t
  | .forcedOut t => "forceExclude ".toList ++ t
  | .selection t => "Dropping selection selector: ".toList ++ t
  | .purePseudo t => "Keeping pure pseudo selector: ".toList ++ t
  | .malformedPrelude line => "Malformed selector list at line ".toList ++ Text.ofNat line
  | .syntaxErrors path => "Parse tree contains errors for ".toList ++ path.getD "stylesheet".toList
  | .collected rules nodes =>
    "Collected ".toList ++ Text.ofNat rules ++ " rule(s), ".toList ++ Text.ofNat nodes ++ " selector node(s)".toList
  | .readingFile path => "Parsing file: ".toList ++ path
  | .readFile path => "Successfully parsed ".toList ++ path
  | .profiling rules => "Building selector profile for ".toList ++ Text.ofNat rules ++ " rule(s)".toList
  | .skippedMalformed line => "Skipping rule with bad selector at line ".toList ++ Text.ofNat line
  | .wholeList list => "rule contains grid-area, keeping: ".toList ++ list
  | .profiled nodes testable =>
    "Selector profile complete: ".toList ++ Text.ofNat nodes ++ " node(s), ".toList ++ Text.ofNat testable ++
      " selector(s) to test".toList
  | .started path => "Starting pipeline for: ".toList ++ path
  | .parseStage => "Stage 1/2: Parsing...".toList
  | .parsed rules selectors =>
    "Parse complete: ".toList ++ Text.ofNat rules ++ " rule(s), ".toList ++ Text.ofNat selectors ++ " selector(s)".toList
  | .profileStage => "Stage 2/2: Building selector profile...".toList
  | .patternsLoaded keep drop path =>
    "Loaded ".toList ++ Text.ofNat keep ++ " force include and ".toList ++ Text.ofNat drop ++
      " force exclude pattern(s) from ".toList ++ path
  | .finished testable kept dropped skipped =>
    "Profile complete: ".toList ++ Text.ofNat testable ++ " to test, ".toList ++ Text.ofNat kept ++ " kept, ".toList ++
      Text.ofNat dropped ++ " dropped, ".toList ++ Text.ofNat skipped ++ " rule(s) skipped".toList

end Note

namespace Selector

/-- The note that a verdict on a trimmed selector leaves. -/
def Verdict.note? (candidate : Text) : Verdict → Option Note
  | .forcedIn => some (.forcedIn candidate)
  | .forcedOut => some (.forcedOut candidate)
  | .selection => some (.selection candidate)
  | .purePseudo => some (.purePseudo candidate)
  | .ordinary | .mixed => none

/-- The notes left by judging a selector. -/
def notes [Host] (force : ForceLists) (selector : Text) : Journal :=
  ((verdict force (Text.trim selector)).note? (Text.trim selector)).toList

end Selector

end CriticalCss
