import CriticalCss.Text.Quoted

/-!
# What is wrong with a regular expression

The causes for which an expression is refused, with their wording in one place.
-/

namespace CriticalCss.Regexp

/-- Why an expression is refused. -/
inductive Problem
  | escapeAtEnd
  | incompleteEscape (escape : Text)
  | badEscape (escape : Text)
  | octalTooLarge (escape : Text)
  | missing (what : String)
  | unterminatedName (terminator : Char)
  | unknownCharacterName (name : Text)
  | openGroup
  | unknownGroup (number : Nat)
  | groupOfSameLookbehind
  | unterminatedSet
  | badRange (first last : Text)
  | leastAboveMost
  | nothingToRepeat
  | multipleRepeat
  | unexpectedEnd
  | badGroupName (name : Text)
  | unknownGroupName (name : Text)
  | unknownExtension (text : Text)
  | unterminatedComment
  | unterminatedGroup
  | badGroupNumber
  | thirdBranch
  | lateGlobalModes
  | groupNameReused (name : Text) (number earlier : Nat)
  | localeMode
  | conflictingModes
  | unknownMode
  | cannotTurnOn
  | cannotTurnOffAlphabet
  | cannotTurnOff
  | onAndOff
  | unbalanced
  | lookbehindTooLong
  | lookbehindNotFixed
  | templateRepeat (operator : String)
  deriving DecidableEq, Repr

/-- What a problem is called. -/
def Problem.message : Problem → Text
  | .escapeAtEnd => "bad escape (end of pattern)".toList
  | .incompleteEscape e => "incomplete escape ".toList ++ e
  | .badEscape e => "bad escape ".toList ++ e
  | .octalTooLarge e => "octal escape value ".toList ++ e ++ " outside of range 0-0o377".toList
  | .missing what => "missing ".toList ++ what.toList
  | .unterminatedName c => "missing ".toList ++ c :: ", unterminated name".toList
  | .unknownCharacterName name => "undefined character name ".toList ++ Text.quoted name
  | .openGroup => "cannot refer to an open group".toList
  | .unknownGroup n => "invalid group reference ".toList ++ Text.ofNat n
  | .groupOfSameLookbehind => "cannot refer to group defined in the same lookbehind subpattern".toList
  | .unterminatedSet => "unterminated character set".toList
  | .badRange a b => "bad character range ".toList ++ a ++ '-' :: b
  | .leastAboveMost => "min repeat greater than max repeat".toList
  | .nothingToRepeat => "nothing to repeat".toList
  | .multipleRepeat => "multiple repeat".toList
  | .unexpectedEnd => "unexpected end of pattern".toList
  | .badGroupName name => "bad character in group name ".toList ++ Text.quoted name
  | .unknownGroupName name => "unknown group name ".toList ++ Text.quoted name
  | .unknownExtension t => "unknown extension ?".toList ++ t
  | .unterminatedComment => "missing ), unterminated comment".toList
  | .unterminatedGroup => "missing ), unterminated subpattern".toList
  | .badGroupNumber => "bad group number".toList
  | .thirdBranch => "conditional backref with more than two branches".toList
  | .lateGlobalModes => "global flags not at the start of the expression".toList
  | .groupNameReused name number earlier =>
    "redefinition of group name ".toList ++ Text.quoted name ++ " as group ".toList ++ Text.ofNat number ++
      "; was group ".toList ++ Text.ofNat earlier
  | .localeMode => "bad inline flags: cannot use 'L' flag with a str pattern".toList
  | .conflictingModes => "bad inline flags: flags 'a', 'u' and 'L' are incompatible".toList
  | .unknownMode => "unknown flag".toList
  | .cannotTurnOn => "bad inline flags: cannot turn on global flag".toList
  | .cannotTurnOffAlphabet => "bad inline flags: cannot turn off flags 'a', 'u' and 'L'".toList
  | .cannotTurnOff => "bad inline flags: cannot turn off global flag".toList
  | .onAndOff => "bad inline flags: flag turned on and off".toList
  | .unbalanced => "unbalanced parenthesis".toList
  | .lookbehindTooLong => "looks too much behind".toList
  | .lookbehindNotFixed => "look-behind requires fixed-width pattern".toList
  | .templateRepeat operator => "internal: unsupported template operator ".toList ++ operator.toList

/-- How reading an expression fails. -/
inductive Failure
  /-- A problem, and the place where it shows if it has one. -/
  | problem (problem : Problem) (position : Option Nat)
  /-- ASCII and Unicode are both asked for. -/
  | incompatibleAlphabets
  /-- A number of repetitions is past the limit. -/
  | countTooLarge
  /-- A number of repetitions has too many digits to be read. -/
  | tooManyDigits (count : Nat)
  deriving DecidableEq, Repr

/-- What a failure says about an expression. A position is given with its line and column when the expression has several lines. -/
def Failure.message (source : Text) : Failure → Text
  | .incompatibleAlphabets => "ASCII and UNICODE flags are incompatible".toList
  | .countTooLarge => "the repetition number is too large".toList
  | .tooManyDigits count => Text.digitsMessage (some count)
  | .problem p none => p.message
  | .problem p (some position) =>
    let before := source.take position
    let place := p.message ++ " at position ".toList ++ Text.ofNat position
    if source.elem '\n' then
      let line := before.count '\n' + 1
      let column := position - (match Text.lastIndexOf '\n' before with
        | some i => i
        | none => 0) + (if before.elem '\n' then 0 else 1)
      place ++ " (line ".toList ++ Text.ofNat line ++ ", column ".toList ++ Text.ofNat column ++ [')']
    else place

end CriticalCss.Regexp
