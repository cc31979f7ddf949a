import CriticalCss.Text.Basic

/-!
# Paths

The names of files. A path is kept in normal form: its parts with one slash between each two of them, without empty parts and without
parts that stay where they are. Parts that go up are kept, because what they lead to depends on the file system.
-/

namespace CriticalCss.Path

/-- The parts that lead somewhere. -/
def parts (t : Text) : List Text := (Text.splitAt '/' t).filter fun p => !p.isEmpty && p != ['.']

/-- The slashes that a path begins with: two are kept, any other number counts as one. -/
def root (t : Text) : Text :=
  match (t.takeWhile (· == '/')).length with
  | 0 => []
  | 2 => ['/', '/']
  | _ => ['/']

/-- The normal form of a path. A path without parts is the place itself. -/
def normal (t : Text) : Text :=
  match root t ++ Text.joinWith ['/'] (parts t) with
  | [] => ['.']
  | path => path

end CriticalCss.Path
