import CriticalCss.Regexp.Matcher

/-!
# Patterns

A pattern selects selectors by their text: exactly one text, or every text in which a regular expression finds something. The flag
letters of a regular expression are those that browsers use.
-/

namespace CriticalCss

/-! ## Flags -/

/-- The flag letters: case, lines, dot, global, Unicode, sticky. -/
def flagLetters : List Char := ['i', 'm', 's', 'g', 'u', 'y']

/-- Why flag letters are refused. -/
inductive FlagFault
  | unsupported (flags unknown : Text)
  | repeated (flags : Text)
  deriving DecidableEq, Repr

/-- What is wrong with flag letters. -/
def FlagFault.message : FlagFault → Text
  | .unsupported flags unknown =>
    "Invalid regexp flags '".toList ++ flags ++ "': unsupported ".toList ++ Text.joinWith [',', ' '] (unknown.map ([·]))
  | .repeated flags => "Invalid regexp flags '".toList ++ flags ++ "': repeated flag".toList

/-- Whether some code point stands in a text twice. -/
def hasRepeat : Text → Bool
  | [] => false
  | c :: rest => rest.elem c || hasRepeat rest

/-- What is wrong with flag letters, if anything is: letters that are no flags first, then repeated ones. -/
def flagFault? (flags : Text) : Option FlagFault :=
  match flags.filter (fun c => !flagLetters.elem c) with
  | [] => if hasRepeat flags then some (.repeated flags) else none
  | unknown => some (.unsupported flags unknown)

/-- The modes that flag letters turn on. The others have no effect on finding one part of a text. -/
def flagModes (flags : Text) : Regexp.Modes where
  ignoreCase := flags.elem 'i'
  multiline := flags.elem 'm'
  dotAll := flags.elem 's'

/-! ## Regular expressions as patterns -/

variable [Host]

/-- A regular expression with its flags, both of them sound. -/
structure RegexpPattern where
  source : Text
  flags : Text
  /-- What the source says under the flags. -/
  program : Regexp.Program
  flags_sound : flagFault? flags = none
  /-- There is room for compiling the source. -/
  fits : Host.exhausted? (.compiling source (flagModes flags)) = none
  compiles : Regexp.compile source (flagModes flags) = .ok program

/-- Why a regular expression is refused as a pattern. -/
inductive RegexpFault
  | flags (fault : FlagFault)
  | unsound (source flags : Text) (failure : Regexp.Failure)
  /-- There is no room for compiling the source. -/
  | exhausted (message : Text)
  deriving DecidableEq, Repr

/-- What is wrong with a regular expression. -/
def RegexpFault.message : RegexpFault → Text
  | .flags fault => fault.message
  | .unsound source letters failure =>
    match failure with
    | .problem .. => "Invalid regexp /".toList ++ source ++ '/' :: (letters ++ ':' :: ' ' :: failure.message source)
    | _ => failure.message source
  | .exhausted message => message

namespace RegexpPattern

/-- The pattern of a source with flags, if both are sound. Unsound flags hide an unsound source. -/
def build (source flags : Text) : Except RegexpFault RegexpPattern :=
  match hf : flagFault? flags with
  | some fault => .error (.flags fault)
  | none =>
    match hr : Host.exhausted? (.compiling source (flagModes flags)) with
    | some message => .error (.exhausted message)
    | none =>
      match hc : Regexp.compile source (flagModes flags) with
      | .ok program => .ok ⟨source, flags, program, hf, hr, hc⟩
      | .error failure => .error (.unsound source flags failure)

/-- Whether the expression has to be found where the text begins. -/
def sticky (p : RegexpPattern) : Bool := p.flags.elem 'y'

/-- Whether the expression finds something in a text. -/
def selects (p : RegexpPattern) (t : Text) : Bool :=
  if p.sticky then p.program.acceptsStart t else p.program.acceptsPart t

/-- Two patterns with the same source and flags are the same. -/
theorem ext_of {p q : RegexpPattern} (hs : p.source = q.source) (hf : p.flags = q.flags) : p = q := by
  obtain ⟨s, f, r, h₁, h₂, h₃⟩ := p
  obtain ⟨s', f', r', h₁', h₂', h₃'⟩ := q
  simp only at hs hf
  subst hs hf
  have : r = r' := by
    rw [h₃] at h₃'
    exact Except.ok.inj h₃'
  subst this
  rfl

instance : DecidableEq RegexpPattern := fun p q =>
  if hs : p.source = q.source then
    if hf : p.flags = q.flags then .isTrue (ext_of hs hf)
    else .isFalse fun h => hf (h ▸ rfl)
  else .isFalse fun h => hs (h ▸ rfl)

end RegexpPattern

/-! ## Patterns -/

/-- A pattern for the texts of selectors. -/
inductive Pattern
  | literal (value : Text)
  | regexp (pattern : RegexpPattern)
  deriving DecidableEq

namespace Pattern

/-- Whether a pattern selects a text. -/
def selects (t : Text) : Pattern → Bool
  | .literal value => value == t
  | .regexp p => p.selects t

/-- Whether one of some patterns selects a text. -/
def anySelects (patterns : List Pattern) (t : Text) : Bool := patterns.any (·.selects t)

/-- A pattern as it is written in a list of patterns. -/
def written : Pattern → Text
  | .literal value => value
  | .regexp p => '/' :: (p.source ++ '/' :: p.flags)

end Pattern

end CriticalCss
