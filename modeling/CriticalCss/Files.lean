import CriticalCss.Path
import CriticalCss.Text.Quoted

/-!
# Files

What a path leads to. A program sees its files through a function from paths to what is there, so that it can be run on the files of a
machine and on files that are only written down.
-/

namespace CriticalCss

/-- Why the system keeps a program from what a path leads to. -/
inductive SystemFault
  | denied
  /-- A name that is too long, a device that fails, and so on: the number and the wording that the system has for it. -/
  | other (number : Nat) (text : Text)
  deriving DecidableEq, Repr

/-- What a path leads to. -/
inductive Look
  /-- Nothing, or a link that leads to itself. -/
  | absent
  /-- The path goes through a file as if it were a directory. -/
  | notDirectory
  | directory
  | file (bytes : List UInt8)
  /-- The system does not tell whether there is something. -/
  | hidden (fault : SystemFault)
  /-- There is something, and it cannot be read. -/
  | closed (fault : SystemFault)
  deriving DecidableEq, Repr

/-- Why a path cannot be read from or written to. -/
inductive AccessFault
  | absent
  | notDirectory
  | isDirectory
  | system (fault : SystemFault)
  deriving DecidableEq, Repr

/-- What the system says about a path that cannot be read from or written to. -/
def AccessFault.message (path : Text) (fault : AccessFault) : Text :=
  let (number, text) : Nat × Text := match fault with
    | .absent => (2, "No such file or directory".toList)
    | .notDirectory => (20, "Not a directory".toList)
    | .isDirectory => (21, "Is a directory".toList)
    | .system .denied => (13, "Permission denied".toList)
    | .system (.other number text) => (number, text)
  "[Errno ".toList ++ Text.ofNat number ++ "] ".toList ++ text ++ ": ".toList ++ Text.quoted path

/-- The bytes of a file. -/
def Look.bytes : Look → Except AccessFault (List UInt8)
  | .file bytes => .ok bytes
  | .absent => .error .absent
  | .notDirectory => .error .notDirectory
  | .directory => .error .isDirectory
  | .hidden fault | .closed fault => .error (.system fault)

/-- Whether there is something, if the system tells. -/
def Look.exists? : Look → Except AccessFault Bool
  | .file _ | .directory | .closed _ => .ok true
  | .absent | .notDirectory => .ok false
  | .hidden fault => .error (.system fault)

/-- Files by their paths from the working directory. Their directories are there with them. -/
abbrev Files := List (Text × List UInt8)

namespace Files

/-- A place on the way along a path. -/
inductive Place
  /-- In a directory below the working directory, by the parts that lead to it. -/
  | inside (parts : List Text)
  /-- A number of levels above the working directory. -/
  | above (levels : Nat)
  | file (bytes : List UInt8)
  deriving DecidableEq, Repr

/-- What a name leads to in a directory. -/
def enter (files : Files) (parts : List Text) (name : Text) : Option Place :=
  let way := parts ++ [name]
  match files.find? fun f => Path.parts f.1 == way with
  | some f => some (.file f.2)
  | none => if files.any fun f => way.isPrefixOf (Path.parts f.1) then some (.inside way) else none

/-- Follows the parts of a path from a place. -/
def follow (files : Files) (place : Place) : List Text → Look
  | [] =>
    match place with
    | .file bytes => .file bytes
    | _ => .directory
  | part :: rest =>
    match place with
    | .file _ => .notDirectory
    | .above levels =>
      if part.isEmpty || part == ['.'] then follow files place rest
      else if part == ['.', '.'] then follow files (.above (levels + 1)) rest
      else .absent
    | .inside parts =>
      if part.isEmpty || part == ['.'] then follow files place rest
      else if part == ['.', '.'] then
        follow files (if parts.isEmpty then .above 1 else .inside parts.dropLast) rest
      else match files.enter parts part with
        | some next => follow files next rest
        | none => .absent

/-- What a path leads to. Of the places outside the working directory only those above it and the root are known. -/
def look (files : Files) (path : Text) : Look :=
  match path with
  | [] => .absent
  | '/' :: rest => if rest.all (· == '/') then .directory else .absent
  | _ => files.follow (.inside []) (Text.splitAt '/' path)

end Files

end CriticalCss
