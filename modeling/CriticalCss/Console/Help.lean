import CriticalCss.Console.Order
import CriticalCss.Console.Colours

/-!
# Descriptions of commands

The text that describes a command: how it is called, what it does, and its options and commands in two columns.
-/

namespace CriticalCss.Console

/-- The width of a description. -/
def helpWidth : Nat := 78

/-- The greatest width of the first of two columns. -/
def firstColumnLimit : Nat := 30

/-- Puts words into lines that are no wider than a width, unless a word alone is. `line` is the line that is being filled. -/
def fillLines (width : Nat) (line : Text) : List Text → List Text
  | [] => if line.isEmpty then [] else [line]
  | word :: rest =>
    if line.isEmpty then fillLines width word rest
    else if line.length + 1 + word.length ≤ width then fillLines width (line ++ ' ' :: word) rest
    else line :: fillLines width word rest

/-- A line of a description. -/
def helpLine (indent : Nat) (t : Text) : Text := List.replicate indent ' ' ++ t ++ ['\n']

/-- One entry of two columns: a short term beside the first line of its meaning, a long one above it. -/
def entryText (column : Nat) (entry : Text × Text) : Text :=
  let lines := fillLines (helpWidth - column - 2) [] (Text.words entry.2)
  let below := lines.flatMap (helpLine (column + 2))
  if entry.1.length + 2 ≤ column then
    match lines with
    | [] => helpLine 2 entry.1
    | first :: more =>
      helpLine 2 (entry.1 ++ List.replicate (column - entry.1.length) ' ' ++ first) ++ more.flatMap (helpLine (column + 2))
  else helpLine 2 entry.1 ++ below

/-- Entries in two columns under a heading; nothing if there are none. -/
def entriesText (heading : Text) (entries : List (Text × Text)) : Text :=
  match entries with
  | [] => []
  | _ =>
    let widest := entries.foldl (fun width e => max width e.1.length) 0
    '\n' :: (helpLine 0 (heading ++ [':']) ++ entries.flatMap (entryText (min widest firstColumnLimit + 2)))

/-- An option as a description shows it: its names, the short one first, and what stands for its value. -/
def OptionForm.term (o : OptionForm) : Text :=
  Text.joinWith [',', ' '] (o.short.toList ++ [o.name]) ++
    (match o.value with
      | some kind => ' ' :: kind.placeholder
      | none => [])

namespace CommandForm

/-- How a command is called. -/
def usage (f : CommandForm) : Text :=
  let places := if f.handsOn then ["COMMAND".toList, "[ARGS]...".toList] else f.arguments.map (·.name)
  "Usage: ".toList ++ f.call ++ " [OPTIONS] ".toList ++ Text.joinWith [' '] places

/-- The description of a command. -/
def help (f : CommandForm) : Text :=
  helpLine 0 f.usage ++ '\n' :: helpLine 2 f.purpose ++
    entriesText "Options".toList (f.options.map fun o => (o.term, o.purpose)) ++
    entriesText "Commands".toList f.commands

end CommandForm

/-- What is printed for a command line that cannot be followed. -/
def Misuse.printed (m : Misuse) : Text :=
  match m.fault with
  | .noArguments => m.form.help
  | fault =>
    helpLine 0 m.form.usage ++ helpLine 0 ("Try '".toList ++ m.form.call ++ ' ' :: (helpName ++ "' for help.".toList)) ++
      '\n' :: Colours.without (helpLine 0 ("Error: ".toList ++ fault.message))

end CriticalCss.Console
