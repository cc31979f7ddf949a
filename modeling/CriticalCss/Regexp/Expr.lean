import CriticalCss.Text.Basic

/-!
# Regular expressions

The expressions that select texts, and the modes that change what they accept. Code points are numbers here, because an expression
may name halves of sixteen bits that no text holds.
-/

namespace CriticalCss.Regexp

/-! ## Modes -/

/-- The modes of a part of an expression. -/
structure Modes where
  /-- Letters are compared without case. -/
  ignoreCase : Bool := false
  /-- The anchors `^` and `$` hold at each line. -/
  multiline : Bool := false
  /-- The dot accepts line breaks too. -/
  dotAll : Bool := false
  /-- Blanks and comments in the expression are passed over. -/
  verbose : Bool := false
  /-- Digits, blanks, words and case are those of ASCII. -/
  ascii : Bool := false
  /-- Digits, blanks, words and case are asked for in all of Unicode. -/
  unicode : Bool := false
  /-- Repetitions are refused. -/
  template : Bool := false
  deriving DecidableEq, Repr

/-- The modes that a group turns on and off for its own part. -/
structure ModeChange where
  on : Modes := {}
  off : Modes := {}
  deriving DecidableEq, Repr

namespace Modes

/-- Both sets of modes together. -/
def union (a b : Modes) : Modes where
  ignoreCase := a.ignoreCase || b.ignoreCase
  multiline := a.multiline || b.multiline
  dotAll := a.dotAll || b.dotAll
  verbose := a.verbose || b.verbose
  ascii := a.ascii || b.ascii
  unicode := a.unicode || b.unicode
  template := a.template || b.template

/-- The modes of the first set that are not in the second. -/
def minus (a b : Modes) : Modes where
  ignoreCase := a.ignoreCase && !b.ignoreCase
  multiline := a.multiline && !b.multiline
  dotAll := a.dotAll && !b.dotAll
  verbose := a.verbose && !b.verbose
  ascii := a.ascii && !b.ascii
  unicode := a.unicode && !b.unicode
  template := a.template && !b.template

/-- Whether two sets of modes share one. -/
def overlaps (a b : Modes) : Bool :=
  (a.ignoreCase && b.ignoreCase) || (a.multiline && b.multiline) || (a.dotAll && b.dotAll) || (a.verbose && b.verbose) ||
  (a.ascii && b.ascii) || (a.unicode && b.unicode) || (a.template && b.template)

/-- The modes inside a group. Turning on ASCII or Unicode ends the other. -/
def change (m : Modes) (c : ModeChange) : Modes :=
  let base := if c.on.ascii || c.on.unicode then { m with ascii := false, unicode := false } else m
  (base.union c.on).minus c.off

end Modes

/-! ## Expressions -/

/-- A kind of code point. -/
inductive Category
  | digit
  | blank
  | word
  deriving DecidableEq, Repr

/-- A member of a set of code points. -/
inductive SetItem
  | single (code : Nat)
  | range (first last : Nat)
  | category (kind : Category) (negated : Bool)
  deriving DecidableEq, Repr

/-- A condition on a place of a text. -/
inductive Anchor
  /-- The beginning of the text, or of a line. -/
  | first
  /-- The end of the text, the place before a line break that ends it, or the end of a line. -/
  | last
  /-- The beginning of the text. -/
  | textStart
  /-- The end of the text. -/
  | textEnd
  /-- Between a code point of a word and one that is not, the outside of the text counting as the latter. -/
  | boundary
  /-- Anywhere else in a text that is not empty. -/
  | inside
  deriving DecidableEq, Repr

/-- Which of the possible numbers of repetitions is tried first, and whether others are tried after it. -/
inductive Greed
  | greedy
  | lazy
  | possessive
  deriving DecidableEq, Repr

/-- The least and the greatest number of code points that an expression accepts. -/
structure Width where
  least : Nat
  greatest : Nat
  deriving DecidableEq, Repr

/-- A regular expression. -/
inductive Expr
  | empty
  /-- One code point. -/
  | single (code : Nat)
  /-- Any code point but one. -/
  | except (code : Nat)
  /-- A code point of a set, or of no member of it. -/
  | oneOf (negated : Bool) (items : List SetItem)
  /-- Any code point; line breaks only in the mode for it. -/
  | any
  | anchor (kind : Anchor)
  | sequence (head tail : Expr)
  | choice (head tail : Expr)
  /-- A group, remembered under its number if it has one, with modes of its own. -/
  | group (number : Option Nat) (change : ModeChange) (body : Expr)
  /-- A group that keeps the first way in which it succeeds. -/
  | atomic (body : Expr)
  | loop (least : Nat) (most : Option Nat) (greed : Greed) (body : Expr)
  /-- A look at what follows or precedes, which takes no code points. -/
  | look (behind negated : Bool) (body : Expr)
  /-- The text of a group once more; its width was known when the reference was read. -/
  | same (number : Nat) (width : Width)
  /-- One of two expressions, by whether a group has taken part. -/
  | ifGroup (number : Nat) (yes no : Expr)
  deriving DecidableEq, Repr

namespace Expr

/-- The expressions one after the other. -/
def ofList : List Expr → Expr
  | [] => .empty
  | [e] => e
  | e :: rest => .sequence e (ofList rest)

/-- The width that stands for one without bound. -/
def unbounded : Nat := 0x10000000000000000

/-- The number of repetitions that stands for one without bound. -/
def countLimit : Nat := 4294967295

/-- The least and the greatest number of code points that an expression accepts. -/
def width : Expr → Width
  | .empty => ⟨0, 0⟩
  | .single _ => ⟨1, 1⟩
  | .except _ => ⟨1, 1⟩
  | .oneOf _ _ => ⟨1, 1⟩
  | .any => ⟨1, 1⟩
  | .anchor _ => ⟨0, 0⟩
  | .sequence a b => ⟨a.width.least + b.width.least, a.width.greatest + b.width.greatest⟩
  | .choice a b => ⟨min a.width.least b.width.least, max a.width.greatest b.width.greatest⟩
  | .group _ _ body => body.width
  | .atomic body => body.width
  | .loop least most _ body =>
    let w := body.width
    ⟨w.least * least,
      match most with
      | some n => w.greatest * n
      | none => if w.greatest = 0 then 0 else unbounded⟩
  | .look _ _ _ => ⟨0, 0⟩
  | .same _ w => w
  | .ifGroup _ yes no => ⟨min yes.width.least no.width.least, max yes.width.greatest no.width.greatest⟩

end Expr

end CriticalCss.Regexp
