import CriticalCss.Host
import CriticalCss.Regexp.Problem
import CriticalCss.Unicode.Letters

/-!
# Reading regular expressions

An expression is read from left to right, one token ahead: a token is a code point, or a backslash with the code point after it.
`Regexp.parse` gives the expression and its modes, or the failure with the place where it shows.
-/

namespace CriticalCss.Regexp.Parser

/-! ## Tokens -/

/-- A code point, alone or behind a backslash. -/
inductive Token
  | plain (c : Char)
  | escaped (c : Char)
  deriving DecidableEq, Repr

/-- The token as it is written. -/
def Token.text : Token → Text
  | .plain c => [c]
  | .escaped c => ['\\', c]

/-- What is left to read, and what has been learnt from the part that was read. -/
structure Cursor where
  /-- The source from the next token on. -/
  rest : Text
  /-- The place of the next token. -/
  position : Nat := 0
  /-- The groups opened so far, each with its width once it is closed. -/
  groups : List (Option Width) := []
  /-- The names of groups. -/
  names : List (Text × Nat) := []
  /-- The number of groups, the whole included, before the lookbehind that is being read. -/
  lookbehind : Option Nat := none
  /-- The groups asked for by number before it was known whether there are so many, with the places of the first such request. -/
  requested : List (Nat × Nat) := []
  /-- The modes of the whole expression. -/
  modes : Modes := {}

/-- A step of reading. -/
abbrev Step := StateT Cursor (Except Failure)

/-- Fails with a problem that shows some code points before the next token. -/
def fail (p : Problem) (back : Nat) : Step α := do
  throw (.problem p (some ((← get).position - back)))

/-- The next token. -/
def peek : Step (Option Token) := do
  match (← get).rest with
  | [] => return none
  | '\\' :: c :: _ => return some (.escaped c)
  | c :: _ => return some (.plain c)

/-- Refuses a backslash that ends the source, as soon as it becomes the next token. -/
def checkNext : Step Unit := do
  match (← get).rest with
  | ['\\'] => fail .escapeAtEnd 0
  | _ => return ()

/-- Takes the next token. -/
def next : Step (Option Token) := do
  match ← peek with
  | none => return none
  | some token =>
    let size := token.text.length
    modify fun s => { s with rest := s.rest.drop size, position := s.position + size }
    checkNext
    return some token

/-- Whether the next token is the given code point. -/
def nextIs (c : Char) : Step Bool := return (← peek) == some (.plain c)

/-- Takes the next token if it is the given code point, and says whether it was. -/
def accept (c : Char) : Step Bool := do
  if ← nextIs c then
    let _ ← next
    return true
  else return false

/-- Takes up to a number of tokens that are code points of a kind. -/
def takeUpTo (kind : Char → Bool) : Nat → Step Text
  | 0 => return []
  | n + 1 => do
    match ← peek with
    | some (.plain c) =>
      if kind c then
        let _ ← next
        return c :: (← takeUpTo kind n)
      else return []
    | _ => return []

/-- Takes all tokens that are decimal digits of ASCII. -/
def takeDigits : Step Text := do takeUpTo Char.isDigit (← get).rest.length

/-- Takes the tokens of a name up to its terminator, and the terminator. -/
def takeName (terminator : Char) (what : String) : Nat → Text → Step Text
  | 0, _ => fail (.missing what) 0
  | fuel + 1, before => do
    match ← next with
    | none => if before.isEmpty then fail (.missing what) 0 else fail (.unterminatedName terminator) before.length
    | some token =>
      if token = .plain terminator then
        if before.isEmpty then fail (.missing what) 1 else return before
      else takeName terminator what fuel (before ++ token.text)

/-- The name up to a terminator. -/
def readName (terminator : Char) (what : String) : Step Text := do
  takeName terminator what ((← get).rest.length + 1) []

/-! ## Escapes -/

/-- Whether a code point is a digit of base eight. -/
def isOctal (c : Char) : Bool := '0' ≤ c && c ≤ '7'

/-- Whether a code point is a digit of base sixteen. -/
def isHex (c : Char) : Bool := (Text.hexValue? c).isSome

/-- The number that digits of base eight denote. -/
def octalNumber (digits : Text) : Nat := digits.foldl (fun n c => n * 8 + (c.toNat - 0x30)) 0

/-- The code point of an escape that names a control. -/
def controlEscape? : Char → Option Nat
  | 'a' => some 7
  | 'b' => some 8
  | 'f' => some 12
  | 'n' => some 10
  | 'r' => some 13
  | 't' => some 9
  | 'v' => some 11
  | '\\' => some 0x5C
  | _ => none

/-- The kind of code point that an escape names. -/
def categoryEscape? : Char → Option SetItem
  | 'd' => some (.category .digit false)
  | 'D' => some (.category .digit true)
  | 's' => some (.category .blank false)
  | 'S' => some (.category .blank true)
  | 'w' => some (.category .word false)
  | 'W' => some (.category .word true)
  | _ => none

/-- The place that an escape names. -/
def anchorEscape? : Char → Option Anchor
  | 'A' => some .textStart
  | 'Z' => some .textEnd
  | 'b' => some .boundary
  | 'B' => some .inside
  | _ => none

/-- A code point written by a fixed number of hexadecimal digits. -/
def hexEscape (letter : Char) (count : Nat) : Step Nat := do
  let digits ← takeUpTo isHex count
  let written : Text := '\\' :: letter :: digits
  if digits.length ≠ count then fail (.incompleteEscape written) written.length
  else match Text.hexNumber? digits with
    | some n => if n < 0x110000 then return n else fail (.badEscape written) written.length
    | none => fail (.badEscape written) written.length

variable [Host]

/-- A code point written by its name. -/
def namedEscape : Step Nat := do
  if ← accept '{' then
    let name ← readName '}' "character name"
    match Host.named? name with
    | some c => return c.toNat
    | none => fail (.unknownCharacterName name) (name.length + 4)
  else fail (.missing "\x7b") 0

/-- An escape that stands for one code point in every place, when it is one. -/
def codeEscape? (c : Char) : Option (Step Nat) :=
  match c with
  | 'x' => some (hexEscape 'x' 2)
  | 'u' => some (hexEscape 'u' 4)
  | 'U' => some (hexEscape 'U' 8)
  | 'N' => some namedEscape
  | _ => none

/-- An escape of a code point that has no meaning of its own. -/
def plainEscape (c : Char) : Step Nat := do
  if c.isAlpha || c.isDigit then fail (.badEscape ['\\', c]) 2 else return c.toNat

/-- An escape inside a set. -/
def setEscape (c : Char) : Step SetItem := do
  match controlEscape? c with
  | some n => return .single n
  | none =>
  match categoryEscape? c with
  | some item => return item
  | none =>
  match codeEscape? c with
  | some read => return .single (← read)
  | none =>
    if isOctal c then
      let digits := c :: (← takeUpTo isOctal 2)
      let n := octalNumber digits
      if 0o377 < n then fail (.octalTooLarge ('\\' :: digits)) (digits.length + 1) else return .single n
    else return .single (← plainEscape c)

/-- The width of a group that has been closed. -/
def closedWidth? (number : Nat) : Step (Option Width) := do
  if number = 0 then return none
  else match (← get).groups[number - 1]? with
    | some width => return width
    | none => return none

/-- Refuses, inside a lookbehind, a group that is open or was opened in it. -/
def checkLookbehind (number : Nat) : Step Unit := do
  match (← get).lookbehind with
  | none => return ()
  | some known =>
    if (← closedWidth? number).isNone then fail .openGroup 0
    else if known ≤ number then fail .groupOfSameLookbehind 0
    else return ()

/-- An escape that begins with a digit from 1 to 9: three octal digits are a code point, all else is the number of a group. -/
def digitEscape (c : Char) : Step Expr := do
  let second ← takeUpTo Char.isDigit 1
  let third ← (match second with
    | [d] => if isOctal c && isOctal d then takeUpTo isOctal 1 else pure []
    | _ => pure [])
  let digits := c :: (second ++ third)
  let size := digits.length + 1
  if third.length = 1 then
    let n := octalNumber digits
    if 0o377 < n then fail (.octalTooLarge ('\\' :: digits)) size else return .single n
  else
    let number := (Text.decimalNumber? digits).getD 0
    if number ≤ (← get).groups.length then
      match ← closedWidth? number with
      | none => fail .openGroup size
      | some width =>
        checkLookbehind number
        return .same number width
    else fail (.unknownGroup number) (size - 1)

/-- An escape outside a set. -/
def escape (c : Char) : Step Expr := do
  match categoryEscape? c, anchorEscape? c with
  | some item, _ => return .oneOf false [item]
  | none, some anchor => return .anchor anchor
  | none, none =>
  match controlEscape? c with
  | some n => return .single n
  | none =>
  match codeEscape? c with
  | some read => return .single (← read)
  | none =>
    if c = '0' then return .single (octalNumber (c :: (← takeUpTo isOctal 2)))
    else if c.isDigit then digitEscape c
    else return .single (← plainEscape c)

/-! ## Sets -/

/-- The member of a set that a token writes. -/
def setItem : Token → Step SetItem
  | .plain c => return .single c.toNat
  | .escaped c => setEscape c

/-- The members of a set up to its closing bracket, after those read before. `start` is the place of the opening bracket. -/
def setItems (start : Nat) : Nat → List SetItem → Step (List SetItem)
  | 0, _ => throw (.problem .unterminatedSet (some start))
  | fuel + 1, before => do
    match ← next with
    | none => throw (.problem .unterminatedSet (some start))
    | some token =>
      if token = .plain ']' && !before.isEmpty then return before
      else
        let low ← setItem token
        if ← accept '-' then
          match ← next with
          | none => throw (.problem .unterminatedSet (some start))
          | some last =>
            if last = .plain ']' then return before ++ [low, .single 0x2D]
            else
              let high ← setItem last
              let size := token.text.length + 1 + last.text.length
              match low, high with
              | .single a, .single b =>
                if b < a then fail (.badRange token.text last.text) size
                else setItems start fuel (before ++ [.range a b])
              | _, _ => fail (.badRange token.text last.text) size
        else setItems start fuel (before ++ [low])

/-- A set behind its opening bracket. A set of one code point is that code point. -/
def readSet : Step Expr := do
  let start := (← get).position - 1
  let negated ← accept '^'
  let items := (← setItems start ((← get).rest.length + 1) []).eraseDups
  match items with
  | [.single n] => return if negated then .except n else .single n
  | _ => return .oneOf negated items

/-! ## Modes -/

/-- The mode that a letter names; the second component tells the mode of the locale, which texts do not have. -/
def modeOf? : Char → Option (Modes × Bool)
  | 'i' => some ({ ignoreCase := true }, false)
  | 'L' => some ({}, true)
  | 'm' => some ({ multiline := true }, false)
  | 's' => some ({ dotAll := true }, false)
  | 'x' => some ({ verbose := true }, false)
  | 'a' => some ({ ascii := true }, false)
  | 't' => some ({ template := true }, false)
  | 'u' => some ({ unicode := true }, false)
  | _ => none

/-- The mode that a token names. -/
def Token.mode? : Token → Option (Modes × Bool)
  | .plain c => modeOf? c
  | .escaped _ => none

/-- Whether a token is a letter. -/
def Token.isLetter : Token → Bool
  | .plain c => Unicode.isLetter c.toNat
  | .escaped _ => false

/-- The modes turned on, up to the token that ends them. -/
def modesOn : Nat → Modes → Token → Step (Modes × Char)
  | 0, _, _ => fail .unexpectedEnd 0
  | fuel + 1, before, token => do
    match token.mode? with
    | none => fail .unknownMode token.text.length
    | some (_, true) => fail .localeMode 0
    | some (mode, false) =>
      let on := before.union mode
      if on.ascii && on.unicode && (mode.ascii || mode.unicode) then fail .conflictingModes 0
      else match ← next with
        | none => fail (.missing "-, : or )") 0
        | some following =>
          if following = .plain ')' then return (on, ')')
          else if following = .plain '-' then return (on, '-')
          else if following = .plain ':' then return (on, ':')
          else if following.mode?.isSome then modesOn fuel on following
          else fail (if following.isLetter then .unknownMode else .missing "-, : or )") following.text.length

/-- The modes turned off, up to the colon that ends them. -/
def modesOff : Nat → Modes → Token → Step Modes
  | 0, _, _ => fail .unexpectedEnd 0
  | fuel + 1, before, token => do
    match token.mode? with
    | none => fail .unknownMode token.text.length
    | some (mode, locale) =>
      if locale || mode.ascii || mode.unicode then fail .cannotTurnOffAlphabet 0
      else
        let off := before.union mode
        match ← next with
        | none => fail (.missing ":") 0
        | some following =>
          if following = .plain ':' then return off
          else if following.mode?.isSome then modesOff fuel off following
          else fail (if following.isLetter then .unknownMode else .missing ":") following.text.length

/-- The modes behind `(?`, of which the first token has been taken: those of the whole expression, which give nothing, or those of a
group. -/
def readModes (token : Token) : Step (Option ModeChange) := do
  let fuel := (← get).rest.length + 2
  let (on, ending) ← (if token = .plain '-' then pure ({}, '-') else modesOn fuel {} token)
  if ending = ')' then
    modify fun s => { s with modes := s.modes.union on }
    return none
  else if on.template then fail .cannotTurnOn 1
  else
    let off ← (do
      if ending = '-' then
        match ← next with
        | none => fail (.missing "flag") 0
        | some following =>
          if following.mode?.isSome then modesOff fuel {} following
          else fail (if following.isLetter then .unknownMode else .missing "flag") following.text.length
      else pure {})
    if off.template then fail .cannotTurnOff 1
    else if on.overlaps off then fail .onAndOff 1
    else return some ⟨on, off⟩

/-! ## Repetitions -/

/-- The number of repetitions that digits denote. Without digits it is zero. -/
def readCount (digits : Text) : Step Nat := do
  if Text.digitLimit < digits.length then throw (.tooManyDigits digits.length)
  else
    let n := (Text.decimalNumber? digits).getD 0
    if Expr.countLimit ≤ n then throw .countTooLarge else return n

/-- The bounds between braces, of which the opening one has been taken, or nothing if the braces hold no bounds; in that case nothing
else has been taken. -/
def readBounds : Step (Option (Nat × Option Nat)) := do
  let start ← get
  if ← nextIs '}' then return none
  else
    let low ← takeDigits
    let high ← (do if ← accept ',' then takeDigits else pure low)
    if ← accept '}' then
      let least ← readCount low
      if high.isEmpty then return some (least, none)
      else
        let most ← readCount high
        if most < least then throw (.problem .leastAboveMost (some start.position)) else return some (least, some most)
    else
      set start
      return none

/-- Puts a repetition in the place of the last of the items read so far, which stand in reverse order. `start` is the place of the
repetition. -/
def applyLoop (start least : Nat) (most : Option Nat) (items : List Expr) : Step (List Expr) := do
  match items with
  | [] => throw (.problem .nothingToRepeat (some start))
  | .anchor _ :: _ => throw (.problem .nothingToRepeat (some start))
  | .loop .. :: _ => throw (.problem .multipleRepeat (some start))
  | item :: before =>
    let body := match item with
      | .group none change inner => if change = {} then inner else item
      | _ => item
    if ← accept '?' then return .loop least most .lazy body :: before
    else if ← accept '+' then return .loop least most .possessive body :: before
    else return .loop least most .greedy body :: before

/-! ## Groups -/

/-- Opens a group, under a name if one is given. -/
def openGroup (name : Option Text) : Step Nat := do
  let s ← get
  let number := s.groups.length + 1
  match name with
  | none => set { s with groups := s.groups ++ [none] }
  | some name =>
    match s.names.lookup name with
    | some earlier => fail (.groupNameReused name number earlier) (name.length + 1)
    | none => set { s with groups := s.groups ++ [none], names := s.names ++ [(name, number)] }
  return number

/-- Closes a group whose content is known. -/
def closeGroup (number : Nat) (body : Expr) : Step Unit :=
  modify fun s => { s with groups := s.groups.set (number - 1) (some body.width) }

/-- Refuses a name that a group cannot have. -/
def checkGroupName (name : Text) : Step Unit := do
  if Unicode.isName name then return () else fail (.badGroupName name) (name.length + 1)

/-- A reference to a group by its name, behind `(?P=`. -/
def namedReference : Step Expr := do
  let name ← readName ')' "group name"
  checkGroupName name
  match (← get).names.lookup name with
  | none => fail (.unknownGroupName name) (name.length + 1)
  | some number =>
    match ← closedWidth? number with
    | none => fail .openGroup (name.length + 1)
    | some width =>
      checkLookbehind number
      return .same number width

/-- The number that a text denotes: decimal digits, not too many of them, single low lines between them, blanks around them and a sign
before them. -/
def wholeNumber? (t : Text) : Option Int :=
  let trimmed := Text.trim t
  let (negative, digits) : Bool × Text := match trimmed with
    | '-' :: rest => (true, rest)
    | '+' :: rest => (false, rest)
    | rest => (false, rest)
  let rec value (afterDigit : Bool) (n : Nat) : Text → Option Nat
    | [] => if afterDigit then some n else none
    | c :: rest =>
      if c = '_' then (if afterDigit then value false n rest else none)
      else match Unicode.digitValue? c.toNat with
        | some d => value true (n * 10 + d) rest
        | none => none
  if Text.digitLimit < (digits.filter (· != '_')).length then none
  else (value false 0 digits).map fun n => if negative then -(n : Int) else n

/-- The group that a condition asks about, behind `(?(`. -/
def conditionGroup : Step Nat := do
  let name ← readName ')' "group name"
  let size := name.length + 1
  let number ← (do
    if Unicode.isName name then
      match (← get).names.lookup name with
      | none => fail (.unknownGroupName name) size
      | some number => pure number
    else match wholeNumber? name with
      | some (.ofNat 0) => fail .badGroupNumber size
      | some (.ofNat number) =>
        if 1073741823 ≤ number then fail (.unknownGroup number) size
        else
          modify fun s =>
            if s.requested.any (·.1 == number) then s
            else { s with requested := s.requested ++ [(number, s.position - size)] }
          pure number
      | _ => fail (.badGroupName name) size)
  checkLookbehind number
  return number

/-- What stands between the opening parenthesis of a group and its content. -/
inductive Opening
  | capturing (name : Option Text)
  | plain (change : ModeChange)
  | atomic
  | look (behind negated : Bool)
  | condition (number : Nat)
  /-- A reference, which has no content. -/
  | done (e : Expr)
  /-- A comment, or modes of the whole expression; neither leaves anything. -/
  | nothing (globalModes : Bool)

/-- Passes over a comment behind `(?#`. `start` is the place of its parenthesis. -/
def skipComment (start : Nat) : Nat → Step Unit
  | 0 => throw (.problem .unterminatedComment (some start))
  | fuel + 1 => do
    match ← next with
    | none => throw (.problem .unterminatedComment (some start))
    | some token => if token = .plain ')' then return () else skipComment start fuel

/-- The beginning of a group, whose parenthesis has been taken at `start`. -/
def readOpening (start : Nat) : Step Opening := do
  if !(← accept '?') then return .capturing none
  else match ← next with
    | none => fail .unexpectedEnd 0
    | some (.plain 'P') =>
      if ← accept '<' then
        let name ← readName '>' "group name"
        checkGroupName name
        return .capturing (some name)
      else if ← accept '=' then return .done (← namedReference)
      else match ← next with
        | none => fail .unexpectedEnd 0
        | some token => fail (.unknownExtension ('P' :: token.text)) (token.text.length + 2)
    | some (.plain ':') => return .plain {}
    | some (.plain '#') =>
      skipComment start ((← get).rest.length + 1)
      return .nothing false
    | some (.plain '=') => return .look false false
    | some (.plain '!') => return .look false true
    | some (.plain '<') =>
      match ← next with
      | none => fail .unexpectedEnd 0
      | some (.plain '=') => return .look true false
      | some (.plain '!') => return .look true true
      | some token => fail (.unknownExtension ('<' :: token.text)) (token.text.length + 2)
    | some (.plain '(') => return .condition (← conditionGroup)
    | some (.plain '>') => return .atomic
    | some token =>
      if token = .plain '-' || token.mode?.isSome then
        match ← readModes token with
        | none => return .nothing true
        | some change => return .plain change
      else fail (.unknownExtension token.text) (token.text.length + 1)

/-- Takes the parenthesis that closes a group opened at `start`. -/
def closeParenthesis (start : Nat) : Step Unit := do
  if ← accept ')' then return () else throw (.problem .unterminatedGroup (some start))

/-! ## Sequences and choices -/

/-- Passes over a comment of the verbose mode, up to the end of its line. -/
def skipLine : Nat → Step Unit
  | 0 => return ()
  | fuel + 1 => do
    match ← next with
    | none => return ()
    | some token => if token = .plain '\n' then return () else skipLine fuel

/-- Whether a code point is passed over in the verbose mode. -/
def isVerboseBlank (c : Char) : Bool :=
  c == ' ' || c == '\t' || c == '\n' || c == '\r' || c == '\x0B' || c == '\x0C'

mutual

/-- A choice between sequences. At the outermost level the modes of the whole expression count from the next sequence on. -/
def choices : Nat → (verbose outermost first : Bool) → Step Expr
  | 0, _, _, _ => fail .unexpectedEnd 0
  | fuel + 1, verbose, outermost, first => do
    let items ← sequence fuel verbose (outermost && first) []
    let head := Expr.ofList items.reverse
    if ← accept '|' then
      let modes := (← get).modes
      return .choice head (← choices fuel (if outermost then modes.verbose else verbose) outermost false)
    else return head

/-- A sequence of items up to a bar, a closing parenthesis or the end, after those read before, in reverse order. -/
def sequence : Nat → (verbose first : Bool) → List Expr → Step (List Expr)
  | 0, _, _, _ => fail .unexpectedEnd 0
  | fuel + 1, verbose, first, before => do
    match ← peek with
    | none => return before
    | some (.escaped c) =>
      let _ ← next
      sequence fuel verbose first ((← escape c) :: before)
    | some (.plain c) =>
      if c = '|' ∨ c = ')' then return before
      else
        let _ ← next
        let here := (← get).position
        if verbose && isVerboseBlank c then sequence fuel verbose first before
        else if verbose && c = '#' then
          skipLine ((← get).rest.length + 1)
          sequence fuel verbose first before
        else match c with
          | '[' => sequence fuel verbose first ((← readSet) :: before)
          | '?' => sequence fuel verbose first (← applyLoop (here - 1) 0 (some 1) before)
          | '*' => sequence fuel verbose first (← applyLoop (here - 1) 0 none before)
          | '+' => sequence fuel verbose first (← applyLoop (here - 1) 1 none before)
          | '{' =>
            match ← readBounds with
            | none => sequence fuel verbose first (.single c.toNat :: before)
            | some (least, most) => sequence fuel verbose first (← applyLoop (here - 1) least most before)
          | '.' => sequence fuel verbose first (.any :: before)
          | '^' => sequence fuel verbose first (.anchor .first :: before)
          | '$' => sequence fuel verbose first (.anchor .last :: before)
          | '(' =>
            match ← readOpening (here - 1) with
            | .nothing false => sequence fuel verbose first before
            | .nothing true =>
              let modes := (← get).modes
              if first && before.isEmpty then sequence fuel modes.verbose first before
              else throw (.problem .lateGlobalModes (some (here - 1)))
            | opening => sequence fuel verbose first ((← group fuel verbose (here - 1) opening) :: before)
          | _ => sequence fuel verbose first (.single c.toNat :: before)

/-- The content of a group that was opened at `start`, and its closing parenthesis. -/
def group : Nat → (verbose : Bool) → (start : Nat) → Opening → Step Expr
  | 0, _, _, _ => fail .unexpectedEnd 0
  | fuel + 1, verbose, start, opening => do
    match opening with
    | .done e => return e
    | .nothing _ => return .empty
    | .capturing name =>
      let number ← openGroup name
      let body ← choices fuel verbose false true
      closeParenthesis start
      closeGroup number body
      return .group (some number) {} body
    | .plain change =>
      let body ← choices fuel ((verbose || change.on.verbose) && !change.off.verbose) false true
      closeParenthesis start
      return .group none change body
    | .atomic =>
      let body ← choices fuel verbose false true
      closeParenthesis start
      return .atomic body
    | .look behind negated =>
      let outer := (← get).lookbehind
      if behind && outer.isNone then
        modify fun s => { s with lookbehind := some (s.groups.length + 1) }
      let body ← choices fuel verbose false true
      if behind && outer.isNone then
        modify fun s => { s with lookbehind := none }
      closeParenthesis start
      return .look behind negated body
    | .condition number =>
      let yes := Expr.ofList (← sequence fuel verbose false []).reverse
      let no ← (do
        if ← accept '|' then
          let items ← sequence fuel verbose false []
          if ← nextIs '|' then fail .thirdBranch 0
          pure (Expr.ofList items.reverse)
        else pure .empty)
      closeParenthesis start
      return .ifGroup number yes no

end

/-! ## Whole expressions -/

/-- Reads a whole source: a choice, after which nothing is left, with groups for all requests by number. -/
def whole (fuel : Nat) : Step Expr := do
  checkNext
  let verbose := (← get).modes.verbose
  let e ← choices fuel verbose true true
  let s ← get
  if s.modes.ascii && s.modes.unicode then throw .incompatibleAlphabets
  match ← peek with
  | some _ => fail .unbalanced 0
  | none =>
    match s.requested.find? (fun r => s.groups.length < r.1) with
    | some (number, position) => throw (.problem (.unknownGroup number) (some position))
    | none => return e

end CriticalCss.Regexp.Parser

namespace CriticalCss.Regexp

/-- The name of a repetition in messages. -/
def Greed.operator : Greed → String
  | .greedy => "MAX_REPEAT"
  | .lazy => "MIN_REPEAT"
  | .possessive => "POSSESSIVE_REPEAT"

/-- The first part of an expression that is well formed and yet refused: a repetition in the template mode, or a lookbehind whose
width is not fixed or too large. -/
def Expr.refused? (template : Bool) : Expr → Option Problem
  | .sequence a b => a.refused? template <|> b.refused? template
  | .choice a b => a.refused? template <|> b.refused? template
  | .group _ _ body => body.refused? template
  | .atomic body => body.refused? template
  | .loop _ _ greed body => if template then some (.templateRepeat greed.operator) else body.refused? template
  | .look behind _ body =>
    let w := body.width
    if behind && countLimit < w.least then some .lookbehindTooLong
    else if behind && w.least != w.greatest then some .lookbehindNotFixed
    else body.refused? template
  | .ifGroup _ yes no => yes.refused? template <|> no.refused? template
  | _ => none

/-- The expression that a source writes under given modes, with the modes of the whole expression. -/
def parse [Host] (source : Text) (modes : Modes) : Except Failure (Expr × Modes) := do
  let (e, s) ← (Parser.whole (3 * source.length + 4)).run { rest := source, modes := modes }
  match e.refused? s.modes.template with
  | some p => throw (.problem p none)
  | none => return (e, s.modes)

end CriticalCss.Regexp
