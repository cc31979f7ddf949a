import CriticalCss.Unicode.Case

/-!
# Keywords and their vendors

The name of an at-rule may carry the mark of a vendor: `-webkit-keyframes` is the keyframes rule of one browser family. A keyword is
a name in lower case, cut into that mark and the name proper. Names that begin with two hyphens belong to the author of the
stylesheet and carry no mark.
-/

namespace CriticalCss

/-- A name in lower case, cut in two. -/
structure Keyword where
  /-- The mark of the vendor with its hyphens, or nothing. -/
  vendor : Text
  /-- The name proper. -/
  basename : Text
  deriving DecidableEq, Repr

namespace Keyword

/-- The whole name. -/
def name (k : Keyword) : Text := k.vendor ++ k.basename

/-- A name without the at signs before it, in lower case. -/
def fold (name : Text) : Text := Unicode.lower (name.dropWhile (· == '@'))

/-- Cuts a name in lower case behind its second hyphen, if it begins with exactly one. -/
def split (folded : Text) : Keyword :=
  match folded with
  | '-' :: rest =>
    let mark := rest.takeWhile (· != '-')
    match mark, rest.dropWhile (· != '-') with
    | _ :: _, _ :: basename => ⟨'-' :: (mark ++ ['-']), basename⟩
    | _, _ => ⟨[], folded⟩
  | _ => ⟨[], folded⟩

/-- The keyword that a name denotes. -/
def ofName (name : Text) : Keyword := split (fold name)

end Keyword

/-- The base name of the rules whose blocks are keyframes. -/
def keyframesName : Text := ['k', 'e', 'y', 'f', 'r', 'a', 'm', 'e', 's']

/-- Whether an at-rule, if there is one, holds keyframes, whatever the vendor. -/
def isKeyframes (atRule : Option Text) : Bool :=
  match atRule with
  | none => false
  | some name => (Keyword.ofName name).basename == keyframesName

end CriticalCss
