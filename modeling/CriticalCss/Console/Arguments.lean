import CriticalCss.Console.Similar
import CriticalCss.Files
import CriticalCss.Unicode.Case

/-!
# Arguments of a command

A command takes options, which have names, and arguments, which have places. The words of a command line are read from left to right:
a word that begins with a dash names an option, and the word after it is the value of the option if it takes one. After two dashes
alone no word names an option. Values are only looked at when every word has been read: those of the options in the order in which
the options were first given, and then the arguments.
-/

namespace CriticalCss.Console

/-! ## What a command takes -/

/-- What a value has to be. -/
inductive ValueKind
  | text
  | path
  /-- The path of a file that is there. -/
  | file
  /-- One of some words, in any case. -/
  | choice (words : List Text)
  deriving DecidableEq, Repr

/-- What stands for a value in a description. -/
def ValueKind.placeholder : ValueKind → Text
  | .text => "TEXT".toList
  | .path => "PATH".toList
  | .file => "FILE".toList
  | .choice words => '[' :: (Text.joinWith ['|'] words ++ [']'])

/-- An option of a command. -/
structure OptionForm where
  /-- Its name, after two dashes. -/
  name : Text
  /-- Its short name, after one dash. -/
  short : Option Text := none
  /-- What its value has to be; without this it takes no value. -/
  value : Option ValueKind := none
  /-- What the option is for. -/
  purpose : Text
  deriving DecidableEq, Repr

namespace OptionForm

/-- Whether the option takes a value. -/
def takesValue (o : OptionForm) : Bool := o.value.isSome

/-- The names of the option. -/
def names (o : OptionForm) : List Text := o.name :: o.short.toList

/-- The option as a message names it. -/
def mentioned (o : OptionForm) : Text := Text.joinWith " / ".toList (o.names.map fun n => '\x27' :: (n ++ ['\x27']))

end OptionForm

/-- An argument of a command. -/
structure ArgumentForm where
  name : Text
  kind : ValueKind
  deriving DecidableEq, Repr

/-- The name of the option that asks for a description. -/
def helpName : Text := "--help".toList

/-- What a command takes. -/
structure CommandForm where
  /-- The words that call the command. -/
  call : Text
  /-- What the command does. -/
  purpose : Text
  options : List OptionForm
  /-- The arguments, in the order of their places. A command that hands its words on to others has none. -/
  arguments : List ArgumentForm := []
  /-- The commands that words are handed on to, by their names. -/
  commands : List (Text × Text) := []
  deriving DecidableEq, Repr

namespace CommandForm

/-- Whether the command hands words on to others. Then no option of its own may stand behind their first word. -/
def handsOn (f : CommandForm) : Bool := !f.commands.isEmpty

/-- The option with a long name. -/
def long? (f : CommandForm) (name : Text) : Option OptionForm := f.options.find? (·.name == name)

/-- The option with a short name. -/
def short? (f : CommandForm) (name : Text) : Option OptionForm := f.options.find? (·.short == some name)

end CommandForm

/-! ## What is wrong with a command line -/

/-- Why a value does not fit its option or its place. -/
inductive ValueFault
  | notOneOf (value : Text) (choices : List Text)
  | absentFile (path : Text)
  | isDirectory (path : Text)
  /-- The path leads to something that may not be read. -/
  | unreadable (what : String) (path : Text)
  deriving DecidableEq, Repr

/-- What is wrong with a value. -/
def ValueFault.message : ValueFault → Text
  | .notOneOf value choices =>
    Text.quoted value ++ " is not one of ".toList ++ Text.joinWith [',', ' '] (choices.map Text.quoted) ++ ['.']
  | .absentFile path => "File ".toList ++ Text.quoted path ++ " does not exist.".toList
  | .isDirectory path => "File ".toList ++ Text.quoted path ++ " is a directory.".toList
  | .unreadable what path => what.toList ++ ' ' :: (Text.quoted path ++ " is not readable.".toList)

/-- Why a command line cannot be followed. -/
inductive UsageFault
  | noArguments
  | noCommand
  | unknownCommand (name : Text) (similar : List Text)
  | unknownOption (name : Text) (similar : List Text)
  | valueNeeded (name : Text)
  | valueRefused (name : Text)
  | argumentMissing (name : Text)
  | argumentsLeft (arguments : List Text)
  /-- A value does not fit; the text mentions the option or the place. -/
  | badValue (mentioned : Text) (fault : ValueFault)
  deriving DecidableEq, Repr

namespace UsageFault

/-- A question that points out similar names, after a blank. -/
def suggestion : List Text → Text
  | [] => []
  | [name] => " Did you mean ".toList ++ Text.quoted name ++ ['?']
  | names => " (Did you mean one of: ".toList ++ Text.joinWith [',', ' '] (names.map Text.quoted) ++ "?)".toList

/-- What is wrong with a command line. -/
def message : UsageFault → Text
  | .noArguments => []
  | .noCommand => "Missing command.".toList
  | .unknownCommand name similar => "No such command ".toList ++ Text.quoted name ++ '.' :: suggestion similar
  | .unknownOption name similar => "No such option ".toList ++ Text.quoted name ++ '.' :: suggestion similar
  | .valueNeeded name => "Option ".toList ++ Text.quoted name ++ " requires an argument.".toList
  | .valueRefused name => "Option ".toList ++ Text.quoted name ++ " does not take a value.".toList
  | .argumentMissing name => "Missing argument '".toList ++ name ++ "'.".toList
  | .argumentsLeft arguments =>
    "Got unexpected extra argument".toList ++ (if arguments.length = 1 then [] else ['s']) ++
      " (".toList ++ Text.joinWith [' '] arguments ++ [')']
  | .badValue mentioned fault => "Invalid value for ".toList ++ mentioned ++ ": ".toList ++ fault.message

end UsageFault

/-! ## Reading words -/

/-- An option that was given, by its long name, and its value. -/
structure Given where
  name : Text
  value : Text := []
  deriving DecidableEq, Repr

/-- The words of a command line: options, and words that name none, each in their order. -/
structure Words where
  options : List Given := []
  plain : List Text := []
  deriving DecidableEq, Repr

/-- What a word that begins with a dash says. -/
inductive OptionWord
  | complete (given : List Given)
  /-- The value of the last option is still to come. Its name is there as it was written. -/
  | waiting (given : List Given) (name written : Text)
  deriving DecidableEq, Repr

namespace CommandForm

/-- Reads short names that are written together; what follows the name of an option with a value is the value. -/
def readShort (f : CommandForm) : Text → Except UsageFault OptionWord
  | [] => .ok (.complete [])
  | c :: rest =>
    match f.short? ['-', c] with
    | none => .error (.unknownOption ['-', c] [])
    | some o =>
      if o.takesValue then
        .ok (if rest.isEmpty then .waiting [] o.name ['-', c] else .complete [⟨o.name, rest⟩])
      else do
        match ← readShort f rest with
        | .complete given => return .complete (⟨o.name, []⟩ :: given)
        | .waiting given name written => return .waiting (⟨o.name, []⟩ :: given) name written

/-- Reads a word that begins with a dash. A long name may have its value behind an equals sign. -/
def readOption (f : CommandForm) (word : Text) : Except UsageFault OptionWord :=
  let name := word.takeWhile (· != '=')
  let value? := (word.dropWhile (· != '=')).tail?
  match f.long? name with
  | some o =>
    match o.takesValue, value? with
    | true, some value => .ok (.complete [⟨o.name, value⟩])
    | true, none => .ok (.waiting [] o.name name)
    | false, some _ => .error (.valueRefused name)
    | false, none => .ok (.complete [⟨o.name, []⟩])
  | none =>
    if word.take 2 = ['-', '-'] then .error (.unknownOption name (Similar.names name (f.options.map (·.name))))
    else f.readShort (word.drop 1)

/-- Whether a word names an option: it begins with a dash and goes on. -/
def namesOption : Text → Bool
  | '-' :: _ :: _ => true
  | _ => false

/-- Reads the words of a command line. -/
def readWords (f : CommandForm) : List Text → Except UsageFault Words
  | [] => .ok {}
  | word :: rest =>
    if word = ['-', '-'] then .ok { plain := rest }
    else if namesOption word then
      match f.readOption word, rest with
      | .error fault, _ => .error fault
      | .ok (.complete given), rest => do
        let words ← f.readWords rest
        return { words with options := given ++ words.options }
      | .ok (.waiting _ _ written), [] => .error (.valueNeeded written)
      | .ok (.waiting given name _), value :: rest => do
        let words ← f.readWords rest
        return { words with options := given ++ ⟨name, value⟩ :: words.options }
    else if f.handsOn then .ok { plain := word :: rest }
    else do
      let words ← f.readWords rest
      return { words with plain := word :: words.plain }

end CommandForm

namespace Words

/-- Whether an option was given. -/
def has (w : Words) (name : Text) : Bool := w.options.any (·.name == name)

/-- The values of an option, in the order in which they were given. -/
def values (w : Words) (name : Text) : List Text := (w.options.filter (·.name == name)).map (·.value)

/-- The value of an option; of several the last counts. -/
def value? (w : Words) (name : Text) : Option Text := (w.values name).getLast?

/-- The names of the options that were given, each at its first place. -/
def names (w : Words) : List Text := (w.options.map (·.name)).eraseDups

end Words

/-! ## Looking at values -/

namespace ValueKind

/-- A word in the form in which words are compared: letters that differ by case only are the same. -/
def folded (t : Text) : Text := Unicode.lower (t.map fun c => if c = 'ſ' then 's' else c)

/-- The choice that a word makes. -/
def chosen? (choices : List Text) (value : Text) : Option Text := choices.find? (· == folded value)

/-- What is wrong with a value, if anything is. -/
def fault? (look : Text → Look) (value : Text) : ValueKind → Option ValueFault
  | .text => none
  | .path => match look value with
    | .closed .denied => some (.unreadable "Path" value)
    | _ => none
  | .file => match look value with
    | .file _ | .closed (.other _ _) => none
    | .closed .denied => some (.unreadable "File" value)
    | .directory => some (.isDirectory value)
    | .absent | .notDirectory | .hidden _ => some (.absentFile value)
  | .choice choices => if (chosen? choices value).isSome then none else some (.notOneOf value choices)

end ValueKind

namespace CommandForm

/-- What is wrong with the value of an option that was given, if anything is. -/
def optionFault? (look : Text → Look) (f : CommandForm) (words : Words) (name : Text) : Option UsageFault := do
  let o ← f.long? name
  let kind ← o.value
  let value ← words.value? name
  let fault ← kind.fault? look value
  return .badValue o.mentioned fault

/-- What is wrong with the words in the places of arguments, if anything is. -/
def argumentFault? (look : Text → Look) : List ArgumentForm → List Text → Option UsageFault
  | [], [] => none
  | [], left => some (.argumentsLeft left)
  | a :: _, [] => some (.argumentMissing a.name)
  | a :: arguments, value :: left =>
    match a.kind.fault? look value with
    | some fault => some (.badValue ('\x27' :: (a.name ++ ['\x27'])) fault)
    | none => argumentFault? look arguments left

/-- Reads the words of a command line and looks at their values. Nothing comes of it if a description is asked for. -/
def accept (look : Text → Look) (f : CommandForm) (arguments : List Text) : Except UsageFault (Option Words) := do
  let words ← f.readWords arguments
  if words.has helpName then return none
  match words.names.findSome? (f.optionFault? look words) with
  | some fault => .error fault
  | none =>
    if f.handsOn then return some words
    match argumentFault? look f.arguments words.plain with
    | some fault => .error fault
    | none => return some words

end CommandForm

end CriticalCss.Console
