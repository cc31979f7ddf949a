import CriticalCss.Console.Program
import CriticalCss.Unicode.Names

/-!
# The command line

Looks at the files that a command line can mean, runs the program on them, puts out what it puts out and writes what it writes.
-/

namespace CriticalCss.Console

/-- The machine that the program runs on. There is room for all work, and the output holds every text. Some names of characters are known,
and no names of symbols. That a file cannot be written shows when it is written. -/
@[reducible] def machine : Host := { Host.Plain.plain with named? := Unicode.named? }

/-- The paths that a word of the command line can mean: the word, what follows an equals sign in it, and what follows a short name. -/
def pathsOfWord (word : Text) : List Text :=
  [word, (word.dropWhile (· != '=')).drop 1, word.drop 2].flatMap fun path => [path, Path.normal path]

/-- The directory that a path leads into. -/
def parentPath (path : Text) : List Text := ((Text.lastIndexOf '/' path).map fun i => path.take (max i 1)).toList

/-- Why the machine keeps a program from a path. -/
def systemFault : IO.Error → SystemFault
  | .permissionDenied .. => .denied
  | .invalidArgument _ number text | .resourceExhausted _ number text | .noSuchThing _ number text | .otherError number text
  | .resourceBusy number text | .resourceVanished number text | .unsupportedOperation number text | .hardwareFault number text
  | .unsatisfiedConstraints number text | .illegalOperation number text | .protocolError number text | .timeExpired number text =>
    .other number.toNat text.toList
  | fault => .other 0 fault.toString.toList

/-- Whether the machine finds something at a path. -/
def isFound (path : Text) : IO Bool := do
  try
    let _ ← IO.FS.realPath (String.ofList path)
    return true
  catch _ => return false

/-- What a path leads to on this machine. -/
def lookAt (path : Text) : IO Look := do
  try
    return .file (← IO.FS.readBinFile (String.ofList path)).toList
  catch
    | .noFileOrDirectory .. => return .absent
    | .inappropriateType none _ _ => return .directory
    | .inappropriateType (some _) _ _ => return .notDirectory
    | fault => return if ← isFound path then .closed (systemFault fault) else .hidden (systemFault fault)

/-- The variables of the environment, as the machine keeps them: each ends with a zero, and its value stands behind the first equals
sign. -/
def readEnvironment : IO Environment := do
  let bytes ← IO.FS.readBinFile "/proc/self/environ"
  return (Text.splitAt '\x00' (Utf8.decodeTolerant bytes.toList)).filterMap fun entry =>
    match entry.span (· != '=') with
    | (name, '=' :: value) => some (name, value)
    | _ => none

/-- The paths that the environment can mean: the values of the variable of a file, in any case of its name. -/
def pathsOfEnvironment (environment : Environment) : List Text :=
  let name := PatternSettings.variableOf PatternSettings.fileField
  (environment.filter fun v => Unicode.lower v.1 == name).map (·.2)

/-- Runs the program on the arguments of the command line. -/
def execute (arguments : List String) : IO UInt32 := do
  let environment ← readEnvironment
  let words := arguments.map String.toList
  let paths := (words ++ pathsOfEnvironment environment).flatMap pathsOfWord
  let places ← (paths ++ paths.flatMap parentPath).eraseDups.mapM fun path => return (path, ← lookAt path)
  let outcome := @run machine (fun path => (places.lookup path).getD .absent) environment words
  for piece in outcome.output do
    let stream ← match piece with
      | .aside _ => IO.getStderr
      | _ => IO.getStdout
    stream.putStr (String.ofList piece.text)
  if let some (path, content) := outcome.written then IO.FS.writeFile (String.ofList path) (String.ofList content)
  if let some fault := outcome.unexpected then (← IO.getStderr).putStrLn (String.ofList fault.message)
  return UInt32.ofNat outcome.code

end CriticalCss.Console

/-- The program. -/
def main (arguments : List String) : IO UInt32 := CriticalCss.Console.execute arguments
