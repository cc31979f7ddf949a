import CriticalCss.Host
import CriticalCss.Journal

/-!
# Output

What a run puts out, piece by piece. The log and the console write through one buffer: a piece that the standard output cannot hold stays
in it and comes up again with the next piece. Where a note is stopped, the log goes on without it; where anything else is stopped, the run
ends.
-/

namespace CriticalCss.Console

/-- A piece of output. -/
inductive Piece
  /-- A line of the log. -/
  | note (note : Note)
  /-- What the console prints. -/
  | console (text : Text)
  /-- What goes past the console. -/
  | plain (text : Text)
  /-- What goes to the other output, the one for errors, which can hold every text. -/
  | aside (text : Text)
  deriving DecidableEq, Repr

namespace Piece

/-- The text of a piece. Of a line of the log these are the words, without the time and the place that it shows besides. -/
def text : Piece → Text
  | .note n => n.weight.name.toList ++ ' ' :: (n.message ++ ['\n'])
  | .console t | .plain t | .aside t => t

/-- Whether a piece is a line of the log. -/
def isNote : Piece → Bool
  | .note _ => true
  | _ => false

end Piece

/-- The lines of a log that shows notes of some weight and more. -/
def logged (level : LogLevel) (journal : Journal) : List Piece := (journal.filter fun n => level.admits n.weight).map .note

variable [Host]

/-- The pieces that are sent, and what is said of the piece that ends the run, if one does. `held` is what the buffer holds. -/
def send (held : Text) : List Piece → List Piece × Option Text
  | [] => ([], none)
  | .note n :: rest =>
    match Host.unsendable? (held ++ (Piece.note n).text) with
    | some _ => send (held ++ (Piece.note n).text) rest
    | none => (.note n :: (send [] rest).1, (send [] rest).2)
  | .console t :: rest =>
    match Host.unsendable? (held ++ t) with
    | some said => ([], some said)
    | none => (.console t :: (send [] rest).1, (send [] rest).2)
  | .plain t :: rest =>
    match Host.unsendable? t with
    | some said => ([], some said)
    | none => (.plain t :: (send held rest).1, (send held rest).2)
  | .aside t :: rest => (.aside t :: (send held rest).1, (send held rest).2)

end CriticalCss.Console
