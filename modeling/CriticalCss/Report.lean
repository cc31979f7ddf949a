import CriticalCss.Settings
import CriticalCss.Document
import CriticalCss.Stylesheet.Arena
import CriticalCss.Stylesheet.Parser

/-!
# Reports on stylesheet files

A report holds a stylesheet that was read from a file, its profile, and the notes of the work. The stylesheet is read first; the file
of patterns is only looked at when there is a stylesheet to judge.
-/

namespace CriticalCss

variable [Host]

/-! ## The patterns to judge by -/

/-- The patterns of two pairs of lists, those of the first before those of the second. -/
def ForceLists.append (a b : ForceLists) : ForceLists := ⟨a.keep ++ b.keep, a.drop ++ b.drop⟩

namespace PatternSettings

/-- The patterns of the file, if there is one. -/
def fileLists (look : Text → Look) (s : PatternSettings) : Except PatternFileFault ForceLists :=
  match s.file with
  | none => .ok {}
  | some path => PatternFile.read look path

/-- The patterns to judge by: those of the settings and then those of the file. -/
def resolve (look : Text → Look) (s : PatternSettings) : Except PatternFileFault ForceLists := do
  return s.lists.append (← s.fileLists look)

/-- The note left by reading the file. -/
def notes (look : Text → Look) (s : PatternSettings) : Journal :=
  match s.file, s.fileLists look with
  | some path, .ok lists => [.patternsLoaded lists.keep.length lists.drop.length path]
  | _, _ => []

end PatternSettings

/-! ## Reports -/

/-- A stylesheet with its profile, and how they came about. -/
structure Report where
  stylesheet : Stylesheet
  profile : Profile
  journal : Journal := []
  deriving DecidableEq, Repr

/-- Why there is no report on a file. -/
inductive ReportFault
  | unreadable (path : Text) (fault : AccessFault)
  /-- There is no room for walking through the syntax tree. -/
  | exhausted (message : Text)
  | patterns (fault : PatternFileFault)

/-- What is wrong with a file, up to the issues if there are any. -/
def ReportFault.message : ReportFault → Text
  | .unreadable path fault => "Failed to read file ".toList ++ path ++ ": ".toList ++ fault.message path
  | .exhausted message => message
  | .patterns fault => fault.message

namespace Report

/-- The document of a report. -/
def document (r : Report) : Document := Document.ofProfile r.stylesheet r.profile

/-- The notes left before a file is read. -/
def openingNotes (path : Text) : Journal := [.started path, .parseStage, .readingFile path]

/-- The notes left before the patterns are looked at. -/
def stylesheetNotes (path : Text) (source : List UInt8) : Journal :=
  let root := SyntaxTree.ofSource source
  let stylesheet := Stylesheet.ofTree (some path) source root
  openingNotes path ++ Stylesheet.readingNotes (some path) source root ++
    [.readFile path, .parsed stylesheet.rules.length stylesheet.selectorCount, .profileStage]

/-- The report on the source of a stylesheet, with the notes that its patterns leave. -/
def ofSource (path : Text) (source : List UInt8) (force : ForceLists) (patternNotes : Journal) : Report :=
  let stylesheet := Stylesheet.ofTree (some path) source (SyntaxTree.ofSource source)
  let profile := Profile.ofRules force stylesheet.rules
  { stylesheet := stylesheet
    profile := profile
    journal :=
      stylesheetNotes path source ++ patternNotes ++ Profile.notes force stylesheet.rules ++
      [.finished profile.testableCount profile.forceKept.length profile.forceDropped.length profile.skippedRules] }

/-- The source at a path, if there is room for walking through its syntax tree. -/
def sourceAt (look : Text → Look) (path : Text) : Except ReportFault (List UInt8) := do
  let source ← ((look path).bytes).mapError (.unreadable path)
  match Host.exhausted? (.walking source) with
  | some message => .error (.exhausted message)
  | none => return source

/-- The report on the file at a path. -/
def ofFile (look : Text → Look) (settings : Settings) (path : Text) : Except ReportFault Report := do
  let source ← sourceAt look path
  let force ← (settings.patterns.resolve look).mapError .patterns
  return ofSource path source force (settings.patterns.notes look)

/-- The notes that the work on a file leaves before a fault ends it; those of the part of a tree that was walked through are left out. -/
def notesBefore (look : Text → Look) (path : Text) : ReportFault → Journal
  | .unreadable .. => openingNotes path
  | .exhausted _ => match (look path).bytes with
    | .ok source => openingNotes path ++ Stylesheet.errorNotes (some path) (SyntaxTree.ofSource source)
    | .error _ => []
  | .patterns _ => match (look path).bytes with
    | .ok source => stylesheetNotes path source
    | .error _ => []

end Report

end CriticalCss
