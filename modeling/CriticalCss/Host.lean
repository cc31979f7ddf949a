import CriticalCss.Files
import CriticalCss.Regexp.Expr
import CriticalCss.Value

/-!
# The host

What an answer depends on besides its input: which characters have names, how deeply calls may be nested, what the standard output can
hold and how wide it is there, and where files may be written. All of it is one class, and what is proved here holds on every host.

A host is the same throughout a run: work that there is room for is given the same room wherever it is done again. Memory that runs out,
interrupts, and a reader that closes the standard output are left out.
-/

namespace CriticalCss

/-- Work whose calls are nested as deeply as what it works on. -/
inductive Work
  /-- Compiling a regular expression. -/
  | compiling (source : Text) (modes : Regexp.Modes)
  /-- Reading a text as JSON. -/
  | readingJson (written : Text)
  /-- Loading a text as YAML. -/
  | loading (source : Text)
  /-- Walking through the syntax tree of a stylesheet. -/
  | walking (source : List UInt8)
  /-- Writing a value into a message. -/
  | showing (value : Value)

/-- What an answer depends on besides its input. -/
class Host where
  /-- The character that has a name. -/
  named? : Text → Option Char
  /-- What is said of work that there is no room for. -/
  exhausted? : Work → Option Text
  /-- The symbol that stands on the console in the place of a name between colons. -/
  symbol? : Text → Option Text
  /-- What is said of a text that the standard output cannot hold. -/
  unsendable? : Text → Option Text
  /-- The standard output can hold every text of ASCII. -/
  ascii_sendable : ∀ t : Text, (∀ c ∈ t, c.toNat < 0x80) → unsendable? t = none
  /-- How many columns of the console a text takes. -/
  columns : Text → Nat
  /-- Whether tables are framed by strokes. They are framed by signs of ASCII otherwise. -/
  hasStrokes : Bool
  /-- Why a file cannot be opened for writing, where neither the path itself nor its directory stands against it. -/
  writeFault? : Text → Option SystemFault

namespace Host.Plain

/-- A host with room for everything, without names and symbols. -/
scoped instance plain : Host where
  named? _ := none
  exhausted? _ := none
  symbol? _ := none
  unsendable? _ := none
  ascii_sendable _ _ := rfl
  columns := List.length
  hasStrokes := true
  writeFault? _ := none

end Host.Plain

namespace Files

variable [Host]

/-- What the system does about a path at which nothing else stands against a file. -/
def opened (path : Text) : Except AccessFault Unit :=
  match Host.writeFault? path with
  | some fault => .error (.system fault)
  | none => .ok ()

/-- Whether a file can be written at a path, and if not, why. A new file needs a directory to be in. -/
def writable (look : Text → Look) (path : Text) : Except AccessFault Unit :=
  match look path with
  | .file _ | .closed _ => opened path
  | .directory => .error .isDirectory
  | .notDirectory => .error .notDirectory
  | .hidden fault => .error (.system fault)
  | .absent =>
    match Text.lastIndexOf '/' path with
    | none => opened path
    | some i => match look (path.take (max i 1)) with
      | .directory => opened path
      | .hidden fault => .error (.system fault)
      | .notDirectory | .file _ | .closed _ => .error .notDirectory
      | .absent => .error .absent

end Files

end CriticalCss
