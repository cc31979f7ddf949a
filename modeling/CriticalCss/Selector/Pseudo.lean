import CriticalCss.Text.Basic

/-!
# Pseudo parts of selectors

Many selectors cannot be looked for on a page as they are written: no element is a pseudo element, and no vendor's pseudo class
holds in another browser. The passes below delete such parts. Each pass reads a selector from left to right and deletes the tokens
it finds, the longest of a place first; what it deletes is never read again.
-/

namespace CriticalCss.Selector

/-! ## Deleting tokens -/

/-- Deletes tokens from left to right. `size` gives the length of the token that a text begins with, or zero, when the code point
before it is known; `skip` code points of a token already found are still to go. -/
def deleteFrom (size : Option Char → Text → Nat) (previous : Option Char) (skip : Nat) : Text → Text
  | [] => []
  | c :: rest =>
    match skip with
    | n + 1 => deleteFrom size (some c) n rest
    | 0 =>
      match size previous (c :: rest) with
      | n + 1 => deleteFrom size (some c) n rest
      | 0 => c :: deleteFrom size (some c) 0 rest

/-- Deletes all tokens of a text. -/
def deleteTokens (size : Option Char → Text → Nat) (t : Text) : Text := deleteFrom size none 0 t

/-! ## Colons -/

/-- Calls a rule with what follows the one or two colons that a text begins with and their number; two colons first. -/
def afterColons (rule : Nat → Text → Nat) : Text → Nat
  | ':' :: ':' :: rest =>
    match rule 2 rest with
    | 0 => rule 1 (':' :: rest)
    | n => n
  | ':' :: rest => rule 1 rest
  | _ => 0

/-! ## Pseudo parts of an element that is on the page -/

/-- The names of the pseudo parts whose element can be looked for. -/
def allowedNames : List Text :=
  [['b', 'e', 'f', 'o', 'r', 'e'],
   ['a', 'f', 't', 'e', 'r'],
   ['v', 'i', 's', 'i', 't', 'e', 'd'],
   ['f', 'i', 'r', 's', 't', '-', 'l', 'e', 't', 't', 'e', 'r'],
   ['f', 'i', 'r', 's', 't', '-', 'l', 'i', 'n', 'e']]

/-- The first of the allowed names that a text begins with. -/
def allowedName? (t : Text) : Option Text := allowedNames.find? (·.isPrefixOf t)

/-- The length of an allowed pseudo part: one or two colons and an allowed name. The name need not end where the part does. -/
def allowedSize (t : Text) : Nat :=
  afterColons (fun colons rest => match allowedName? rest with
    | some name => colons + name.length
    | none => 0) t

/-- The selector without its allowed pseudo parts. -/
def stripAllowed (t : Text) : Text := deleteTokens (fun _ => allowedSize) t

/-! ## Selections -/

/-- The names of the pseudo element for what the reader has marked. -/
def selectionNames : List Text :=
  [['s', 'e', 'l', 'e', 'c', 't', 'i', 'o', 'n'],
   ['-', 'm', 'o', 'z', '-', 's', 'e', 'l', 'e', 'c', 't', 'i', 'o', 'n']]

/-- Whether a colon that a selection name follows occurs in a selector. -/
def mentionsSelection : Text → Bool
  | [] => false
  | c :: rest => (c == ':' && selectionNames.any (·.isPrefixOf rest)) || mentionsSelection rest

/-! ## Any pseudo part -/

/-- Whether a code point may stand in the name of a pseudo part. -/
def isNamePart (c : Char) : Bool := c.isAlpha || c.isDigit || c == '-' || c == '_'

/-- The length of any pseudo part: one or two colons and a name, which may be empty. -/
def pseudoSize : Text → Nat
  | ':' :: ':' :: rest => 2 + (rest.takeWhile isNamePart).length
  | ':' :: rest => 1 + (rest.takeWhile isNamePart).length
  | _ => 0

/-- Whether nothing but blanks is left of a selector without its pseudo parts. -/
def isPurePseudo (t : Text) : Bool := (deleteTokens (fun _ => pseudoSize) t).all Text.isBlank

/-! ## Vendor pseudo parts -/

/-- Whether a code point may stand in a vendor's name behind its first hyphen. -/
def isVendorPart (c : Char) : Bool := c.isLower || c == '-'

/-- The length of a vendor pseudo part: one or two colons, a hyphen and a name. A colon behind a backslash begins none, because it
belongs to a name. -/
def vendorSize (previous : Option Char) (t : Text) : Nat :=
  if previous = some '\\' then 0
  else afterColons (fun colons rest => match rest with
    | '-' :: name => colons + 1 + (name.takeWhile isVendorPart).length
    | _ => 0) t

/-- The selector without its vendor pseudo parts. -/
def stripVendor (t : Text) : Text := deleteTokens vendorSize t

end CriticalCss.Selector
