import CriticalCss.Console.Arguments
import CriticalCss.Journal
import CriticalCss.Path

/-!
# Orders

What a command line asks for: the profile of a stylesheet, what happens to a single selector, or a description of a command.
-/

namespace CriticalCss.Console

/-! ## The commands -/

/-- The option that asks for a description. -/
def helpOption : OptionForm := { name := helpName, purpose := "Show this message and exit.".toList }

/-- The option that keeps selectors. -/
def keepOption : OptionForm where
  name := "--force-include".toList
  value := some .text
  purpose := "Always keep selectors matching this pattern (\x27/regexp/flags\x27 or exact text)".toList

/-- The option that drops selectors. -/
def dropOption : OptionForm where
  name := "--force-exclude".toList
  value := some .text
  purpose := "Always drop selectors matching this pattern (\x27/regexp/flags\x27 or exact text)".toList

/-- The option for a file of patterns. -/
def patternsOption : OptionForm where
  name := "--patterns".toList
  value := some .file
  purpose := "YAML file with force_include / force_exclude lists".toList

/-- The forms in which a profile can be shown. -/
def shapes : List Text := ["console".toList, "json".toList]

/-- The option for the form in which a profile is shown. -/
def shapeOption : OptionForm where
  name := "--format".toList
  value := some (.choice shapes)
  purpose := "Output format (default: console)".toList

/-- The option for the file that a profile is written to. -/
def outputOption : OptionForm where
  name := "--output".toList
  short := some "-o".toList
  value := some .path
  purpose := "Output file path (default: stdout)".toList

/-- The names of what a log shows. -/
def logLevels : List (Text × LogLevel) :=
  [("debug".toList, .debug), ("info".toList, .info), ("warning".toList, .warning), ("error".toList, .error),
    ("critical".toList, .critical)]

/-- The option for what is logged. -/
def logLevelOption : OptionForm where
  name := "--log-level".toList
  value := some (.choice (logLevels.map (·.1)))
  purpose := "Set the logging level".toList

/-- The name of the command that judges a selector. -/
def normalizeName : Text := "normalize".toList

/-- The name of the command that makes a profile. -/
def profileName : Text := "profile".toList

/-- The name of the program. -/
def programName : Text := "main".toList

/-- What the command does that judges a selector. -/
def normalizeForm : CommandForm where
  call := programName ++ ' ' :: normalizeName
  purpose := "Show how a single selector is classified.".toList
  options := [keepOption, dropOption, helpOption]
  arguments := [⟨"SELECTOR".toList, .text⟩]

/-- What the command does that makes a profile. -/
def profileForm : CommandForm where
  call := programName ++ ' ' :: profileName
  purpose := "Build the selector profile of a stylesheet.".toList
  options := [keepOption, dropOption, patternsOption, shapeOption, outputOption, helpOption]
  arguments := [⟨"PATH".toList, .file⟩]

/-- What the program does as a whole. -/
def programForm : CommandForm where
  call := programName
  purpose := "Classify stylesheet selectors for critical CSS extraction.".toList
  options := [logLevelOption, helpOption]
  commands := [(normalizeName, normalizeForm.purpose), (profileName, profileForm.purpose)]

/-! ## Orders -/

/-- The patterns that a command line gives, as they are written. -/
structure ForceWords where
  keep : List Text := []
  drop : List Text := []
  deriving DecidableEq, Repr

/-- An order for the profile of a stylesheet. -/
structure ProfileOrder where
  path : Text
  force : ForceWords := {}
  /-- A file of patterns. -/
  patterns : Option Text := none
  /-- Whether the profile is shown as a document and not as a table. -/
  asDocument : Bool := false
  /-- The file that the document is written to. -/
  output : Option Text := none
  level : LogLevel := .warning
  deriving DecidableEq, Repr

/-- An order to judge a selector. -/
structure NormalizeOrder where
  selector : Text
  force : ForceWords := {}
  level : LogLevel := .warning
  deriving DecidableEq, Repr

/-- What a command line asks for. -/
inductive Order
  | help (form : CommandForm)
  | profile (order : ProfileOrder)
  | normalize (order : NormalizeOrder)
  deriving DecidableEq, Repr

/-- A command line that cannot be followed, with the command that it fails at. -/
structure Misuse where
  form : CommandForm
  fault : UsageFault
  deriving DecidableEq, Repr

/-- The patterns that words give. -/
def ForceWords.ofWords (words : Words) : ForceWords := ⟨words.values keepOption.name, words.values dropOption.name⟩

/-- What a log shows by the words for the whole program. -/
def levelOf (words : Words) : LogLevel :=
  let named : Option LogLevel := do
    let value ← words.value? logLevelOption.name
    logLevels.lookup (← ValueKind.chosen? (logLevels.map (·.1)) value)
  named.getD .warning

/-- The order that words give to make a profile. -/
def ProfileOrder.ofWords (level : LogLevel) (words : Words) : ProfileOrder where
  path := Path.normal (words.plain.headD [])
  force := ForceWords.ofWords words
  patterns := (words.value? patternsOption.name).map Path.normal
  asDocument := match words.value? shapeOption.name with
    | some value => ValueKind.chosen? shapes value == some "json".toList
    | none => false
  output := (words.value? outputOption.name).map Path.normal
  level := level

/-- The order that words give to judge a selector. -/
def NormalizeOrder.ofWords (level : LogLevel) (words : Words) : NormalizeOrder :=
  ⟨words.plain.headD [], ForceWords.ofWords words, level⟩

namespace Order

/-- Reads the words for a command. -/
def ofCommand (look : Text → Look) (form : CommandForm) (order : Words → Order) (arguments : List Text) :
    Except Misuse Order :=
  match form.accept look arguments with
  | .error fault => .error ⟨form, fault⟩
  | .ok none => .ok (.help form)
  | .ok (some words) => .ok (order words)

/-- Reads the words for the command that the first of them names. A first word that names none, but an option, is read as one. -/
def ofNamed (look : Text → Look) (level : LogLevel) (name : Text) (arguments : List Text) : Except Misuse Order :=
  if name = normalizeName then ofCommand look normalizeForm (fun w => .normalize (.ofWords level w)) arguments
  else if name = profileName then ofCommand look profileForm (fun w => .profile (.ofWords level w)) arguments
  else
    match programForm.accept look (name :: arguments) with
    | .error fault => .error ⟨programForm, fault⟩
    | .ok none => .ok (.help programForm)
    | .ok (some _) => .error ⟨programForm, .unknownCommand name (Similar.names name (programForm.commands.map (·.1)))⟩

/-- What a command line asks for. -/
def ofArguments (look : Text → Look) (arguments : List Text) : Except Misuse Order :=
  match arguments with
  | [] => .error ⟨programForm, .noArguments⟩
  | _ =>
    match programForm.accept look arguments with
    | .error fault => .error ⟨programForm, fault⟩
    | .ok none => .ok (.help programForm)
    | .ok (some words) => match words.plain with
      | [] => .error ⟨programForm, .noCommand⟩
      | name :: rest => ofNamed look (levelOf words) name rest

end Order

end CriticalCss.Console
