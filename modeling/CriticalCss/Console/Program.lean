import CriticalCss.Console.Configuration
import CriticalCss.Console.Help
import CriticalCss.Console.Output
import CriticalCss.Console.Screen

/-!
# The program

What a command line does in an environment with some files: what is put out, what is written, and the number that the program ends
with. Faults that are to be expected end the program with a message; the others end it without one.
-/

namespace CriticalCss.Console

/-! ## Messages -/

/-- The place of an issue, its steps joined by points. -/
def placeText (path : List PathStep) : Text :=
  Text.joinWith ['.'] (path.map fun
    | .field name => name
    | .item i => Text.ofNat i)

/-- Issues in lines, under their number and the name of what was checked. -/
def issuesText (checked : Text) (issues : List Issue) : Text :=
  Text.ofNat issues.length ++ (if issues.length = 1 then " validation error for ".toList else " validation errors for ".toList) ++
    checked ++ issues.flatMap fun i =>
      (if i.path.isEmpty then [] else '\n' :: placeText i.path) ++ "\n  ".toList ++ i.complaint.message

/-- The name of what is checked when a text between slashes is read. -/
def regexpChecked : Text := "RegexpPattern".toList

/-- The name of what is checked when a mapping is read. -/
def taggedChecked : Text := "tagged-union[LiteralPattern,function-after[_check_source(), RegexpPattern]]".toList

/-- The issues of an entry in lines; nothing if it has none. -/
def entryIssuesText : PatternFault → Text
  | .malformedText _ issues => issuesText regexpChecked issues
  | .malformedMapping _ issues => issuesText taggedChecked issues
  | _ => []

/-- What is wrong with an entry, with its issues. -/
def entryMessage (fault : PatternFault) : Text := fault.message ++ entryIssuesText fault

/-- What is wrong with a file of patterns, with the issues of its entry. -/
def fileMessage (fault : PatternFileFault) : Text :=
  fault.message ++ match fault with
    | .entry _ _ entry => entryIssuesText entry
    | _ => []

/-- What is wrong with settings, with their issues. -/
def settingsMessage (fault : SettingsFault) : Text :=
  fault.message ++ match fault with
    | .refused (.issues issues) => issuesText PatternSettings.recordName issues
    | _ => []

/-! ## Faults that are expected -/

/-- A fault that ends the program without a message. -/
inductive Unexpected
  | settings (fault : SettingsFault)
  | entry (fault : PatternFault)
  | patterns (fault : PatternFileFault)
  | output (path : Text) (fault : AccessFault)
  /-- The standard output cannot hold what is to be printed. -/
  | unsendable (said : Text)

/-- What is wrong when the program ends without a message. -/
def Unexpected.message : Unexpected → Text
  | .settings fault => settingsMessage fault
  | .entry fault => entryMessage fault
  | .patterns fault => fileMessage fault
  | .output path fault => fault.message path
  | .unsendable said => said

/-- How a command fails. -/
inductive CommandFault
  | reported (message : Text)
  | unexpected (fault : Unexpected)

/-- How the program fails when its session cannot be configured. -/
def configurationFault : ConfigurationFault → CommandFault
  | .environment (.refused (.interrupted cause)) => .unexpected (.settings (.refused (.interrupted cause)))
  | .environment fault => .reported ("Invalid pattern settings: ".toList ++ settingsMessage fault)
  | .pattern (.interrupted cause) => .unexpected (.entry (.interrupted cause))
  | .pattern fault => .reported (entryMessage fault)
  | .remaining fault => .unexpected (.settings fault)

/-- Whether the command that makes a profile expects an interruption. -/
def expectsInterruption : Interruption → Bool
  | .countTooLarge => false
  | .exhausted _ | .tooManyDigits => true

/-- Whether the command that makes a profile expects a fault of a file: a value that there is not, or work that there is no room for. -/
def expectsYaml : Yaml.Fault → Bool
  | .exhausted _ => true
  | fault => fault.isOfValue

/-- How a command fails at the file of patterns. The command that makes a profile also expects bytes that are no text, values that there
are not, and most interruptions. -/
def patternsFault (profiling : Bool) (fault : PatternFileFault) : CommandFault :=
  let expected := match fault with
    | .absent _ | .notMapping | .unknownKeys _ | .notList _ | .yaml .malformed => true
    | .entry _ _ (.interrupted cause) | .interrupted cause => profiling && expectsInterruption cause
    | .entry .. => true
    | .undecodable _ => profiling
    | .yaml fault => profiling && expectsYaml fault
    | .unreadable .. => false
  if expected then .reported (fileMessage fault) else .unexpected (.patterns fault)

/-- How the command that makes a profile fails at a file. -/
def reportFault : ReportFault → CommandFault
  | .patterns fault => patternsFault true fault
  | fault => .reported fault.message

/-! ## Outcomes -/

/-- What the program leaves behind. -/
structure Outcome where
  output : List Piece := []
  /-- The number that the program ends with. -/
  code : Nat := 0
  /-- A file that it writes: its path and its text. -/
  written : Option (Text × Text) := none
  /-- The fault that ended it without a message. -/
  unexpected : Option Unexpected := none

namespace Outcome

/-- What is printed besides the log. -/
def printed (o : Outcome) : Text := (o.output.filter fun p => !p.isNote).flatMap (·.text)

variable [Host]

/-- The outcome of a command that failed, after it had put something out. -/
def failed (before : List Piece) : CommandFault → Outcome
  | .reported message =>
    { output := before ++ [.console (Markup.printed ("[bold red]Error:[/bold red] ".toList ++ Markup.escape message))], code := 1 }
  | .unexpected fault => { output := before, code := 1, unexpected := some fault }

/-- What is left of an outcome when its output is sent. A piece that cannot be sent ends the run there. -/
def sent (o : Outcome) : Outcome :=
  match send [] o.output with
  | (output, none) => { o with output := output }
  | (output, some said) => { output := output, code := 1, unexpected := some (.unsendable said) }

end Outcome

/-! ## Commands -/

variable [Host]

/-- The patterns of a command line, an environment and its file, with the notes left by reading them. -/
def forceOf (look : Text → Look) (environment : Environment) (words : ForceWords) : Except CommandFault (ForceLists × Journal) := do
  let session ← (({ environment := environment } : Session).configure words none).mapError configurationFault
  let settings ← session.current.mapError fun fault => .unexpected (.settings fault)
  let force ← (settings.patterns.resolve look).mapError (patternsFault false)
  return (force, settings.patterns.notes look)

/-- What happens to a selector by the patterns of a command line, an environment and its file. -/
def judge (look : Text → Look) (environment : Environment) (order : NormalizeOrder) : Except CommandFault Classification :=
  (forceOf look environment order.force).map fun r => Selector.classify r.1 order.selector

/-- The notes left by judging a selector. -/
def judgingNotes (look : Text → Look) (environment : Environment) (order : NormalizeOrder) : Journal :=
  match forceOf look environment order.force with
  | .ok (force, notes) => notes ++ Selector.notes force order.selector
  | .error _ => []

/-- Judges a selector and prints the text that is looked for, or else what happens to the selector. -/
def normalize (look : Text → Look) (environment : Environment) (order : NormalizeOrder) : Outcome :=
  match judge look environment order with
  | .error fault => .failed [] fault
  | .ok c =>
    { output :=
        logged order.level (judgingNotes look environment order) ++
        [.plain (Colours.without (c.tested?.getD c.label ++ ['\n']))] }

/-- Prints or writes the document of a report, after something was put out. -/
def showDocument (look : Text → Look) (before : List Piece) (report : Report) : Option Text → Outcome
  | none => { output := before ++ [.plain (report.document.toJson.pretty ++ ['\n'])] }
  | some path => match Files.writable look path with
    | .ok () => { output := before, written := some (path, report.document.toJson.pretty) }
    | .error fault => .failed before (.unexpected (.output path fault))

/-- What is printed before the work on a stylesheet begins. -/
def announced (order : ProfileOrder) : List Piece := if order.asDocument then [] else [.console (announcement order.path)]

/-- Shows a report in the form that an order asks for. -/
def shownReport (look : Text → Look) (order : ProfileOrder) (report : Report) : Outcome :=
  let before := announced order ++ logged order.level report.journal
  if order.asDocument then showDocument look before report order.output
  else { output := before ++ (screen report).map .console }

/-- Makes the profile of a stylesheet. -/
def profile (look : Text → Look) (environment : Environment) (order : ProfileOrder) : Outcome :=
  match ({ environment := environment } : Session).configure order.force order.patterns with
  | .error fault => .failed [] (configurationFault fault)
  | .ok session =>
    match session.report look none order.path with
    | .error (.settings fault) => .failed (announced order) (.unexpected (.settings fault))
    | .error (.report fault) =>
      .failed (announced order ++ logged order.level (Report.notesBefore look order.path fault)) (reportFault fault)
    | .ok report => shownReport look order report

/-- What an order leads to, as far as its output can be sent. -/
def perform (look : Text → Look) (environment : Environment) : Order → Outcome
  | .help form => { output := [.plain form.help] }
  | .normalize order => normalize look environment order
  | .profile order => profile look environment order

/-- What a command line does. -/
def run (look : Text → Look) (environment : Environment) (arguments : List Text) : Outcome :=
  match Order.ofArguments look arguments with
  | .error misuse => { output := [.aside misuse.printed], code := 2 }
  | .ok order => (perform look environment order).sent

end CriticalCss.Console
