import CriticalCss.Pattern.Basic
import CriticalCss.Interruption
import CriticalCss.Issue

/-!
# Entries of pattern lists

An entry is a text or a mapping. A text between slashes is a regular expression with its flags, any other text stands for itself. A
mapping names its kind and has a field for each part of the pattern. Reading an entry either gives a pattern or says why there is
none.
-/

namespace CriticalCss

/-! ## Refusals -/

/-- How checking a value fails. -/
inductive Refusal
  | issues (found : List Issue)
  /-- Something ended the check at once. -/
  | interrupted (cause : Interruption)
  deriving DecidableEq, Repr

/-- The refusal, seen from the value around the one that was checked. -/
def Refusal.within (step : PathStep) : Refusal → Refusal
  | .issues found => .issues (found.map (·.within step))
  | .interrupted cause => .interrupted cause

/-- What is wrong with a regular expression as a refusal. -/
def RegexpFault.refusal : RegexpFault → Refusal
  | .unsound _ _ .countTooLarge => .interrupted .countTooLarge
  | .exhausted message => .interrupted (.exhausted message)
  | .flags fault => .issues [⟨[.field "flags".toList], .broken fault.message⟩]
  | fault => .issues [⟨[], .broken fault.message⟩]

/-! ## Fields -/

/-- A field of a record that is being checked: its name and what became of it. -/
structure Checked (α : Type) where
  name : Text
  outcome : Except Complaint α

namespace Checked

/-- A field that has to be there. -/
def required (entries : List (Value × Value)) (name : Text) (check : Value → Except Complaint α) : Checked α :=
  ⟨name, match Value.field? name entries with
    | some value => check value
    | none => .error .missing⟩

/-- A field that has a default. -/
def optional (entries : List (Value × Value)) (name : Text) (absent : α) (check : Value → Except Complaint α) : Checked α :=
  ⟨name, match Value.field? name entries with
    | some value => check value
    | none => .ok absent⟩

/-- The issue of a field, if it has one. -/
def issues (field : Checked α) : List Issue :=
  match field.outcome with
  | .ok _ => []
  | .error complaint => [⟨[.field field.name], complaint⟩]

end Checked

namespace Pattern

variable [Host]

/-! ## Kinds -/

/-- The name of the kind of exact texts. -/
def literalKind : Text := "literal".toList

/-- The name of the kind of regular expressions. -/
def regexpKind : Text := "regexp".toList

/-- The name of the field that says the kind. -/
def kindField : Text := "kind".toList

/-- The kind of a pattern. -/
def kind : Pattern → Text
  | .literal _ => literalKind
  | .regexp _ => regexpKind

/-- Flag letters that are sound. -/
def asFlags (v : Value) : Except Complaint Text := do
  let flags ← v.asText
  match flagFault? flags with
  | none => .ok flags
  | some fault => .error (.broken fault.message)

/-- An exact text from its fields. -/
def literalOfFields (entries : List (Value × Value)) : Except Refusal Pattern :=
  let kind := Checked.optional entries kindField literalKind (Value.asOneOf [literalKind])
  let value := Checked.required entries "value".toList Value.asText
  match kind.outcome, value.outcome with
  | .ok _, .ok t => .ok (.literal t)
  | _, _ => .error (.issues (kind.issues ++ value.issues))

/-- A regular expression from its fields. Its source is looked at when every field is sound. -/
def regexpOfFields (entries : List (Value × Value)) : Except Refusal Pattern :=
  let kind := Checked.optional entries kindField regexpKind (Value.asOneOf [regexpKind])
  let source := Checked.required entries "source".toList Value.asText
  let flags := Checked.optional entries "flags".toList [] asFlags
  match kind.outcome, source.outcome, flags.outcome with
  | .ok _, .ok s, .ok f => match RegexpPattern.build s f with
    | .ok p => .ok (.regexp p)
    | .error fault => .error fault.refusal
  | _, _, _ => .error (.issues (kind.issues ++ source.issues ++ flags.issues))

/-- A pattern from a mapping that names its kind. The issues of its fields stand below the name of the kind. -/
def ofTagged : Value → Except Refusal Pattern
  | .mapping closed =>
    let entries := Value.openEntries closed
    match Value.field? kindField entries with
    | none => .error (.issues [⟨[], .noTag kindField⟩])
    | some tag =>
      if tag.isText literalKind then (literalOfFields entries).mapError (·.within (.field literalKind))
      else if tag.isText regexpKind then (regexpOfFields entries).mapError (·.within (.field regexpKind))
      else .error (.issues [⟨[], .unknownTag tag.tagText kindField [literalKind, regexpKind]⟩])
  | _ => .error (.issues [⟨[], .notMapping⟩])

end Pattern

/-! ## Reading entries -/

/-- Why an entry gives no pattern. -/
inductive PatternFault
  | empty
  /-- A text between slashes is no sound regular expression. -/
  | malformedText (text : Text) (issues : List Issue)
  | noKind (entries : List (Value × Value))
  /-- The fields of a mapping make no pattern. -/
  | malformedMapping (entries : List (Value × Value)) (issues : List Issue)
  /-- Neither a text nor a mapping. -/
  | unsupported (value : Value)
  /-- Something ended the check at once, and nothing is told of the entry. -/
  | interrupted (cause : Interruption)

namespace PatternFault

/-- What is wrong with an entry, up to the issues if there are any. -/
def message : PatternFault → Text
  | .empty => "Empty pattern string".toList
  | .malformedText t _ => "Invalid pattern '".toList ++ t ++ "': ".toList
  | .noKind entries => "Pattern ".toList ++ (Value.mapping entries).shown ++ " missing required 'kind' field".toList
  | .malformedMapping entries _ => "Invalid pattern ".toList ++ (Value.mapping entries).shown ++ ": ".toList
  | .unsupported value =>
    "Unsupported pattern entry ".toList ++ value.shown ++ ": expected a string or mapping".toList
  | .interrupted cause => cause.message

/-- The issues that a fault rests on. -/
def issues : PatternFault → List Issue
  | .malformedText _ issues => issues
  | .malformedMapping _ issues => issues
  | _ => []

end PatternFault

namespace Pattern

variable [Host]

/-- Cuts a text between slashes into the source and the flags behind the last slash. -/
def splitRegexp (t : Text) : Option (Text × Text) :=
  match t with
  | '/' :: rest => match Text.lastIndexOf '/' rest with
    | some i => some (rest.take i, rest.drop (i + 1))
    | none => none
  | _ => none

/-- The pattern that a text denotes. -/
def ofText (t : Text) : Except PatternFault Pattern :=
  match Text.trim t with
  | [] => .error .empty
  | trimmed => match splitRegexp trimmed with
    | none => .ok (.literal trimmed)
    | some (source, flags) => match RegexpPattern.build source flags with
      | .ok p => .ok (.regexp p)
      | .error fault => match fault.refusal with
        | .issues found => .error (.malformedText trimmed found)
        | .interrupted cause => .error (.interrupted cause)

/-- Refuses an entry with a fault whose message shows it. Where it cannot be shown, nothing is told of it. -/
def refuse (entry : Value) (fault : PatternFault) : Except PatternFault Pattern :=
  match entry.interruption? with
  | some cause => .error (.interrupted cause)
  | none => .error fault

/-- The pattern that a mapping denotes. -/
def ofMapping (entries : List (Value × Value)) : Except PatternFault Pattern :=
  match Value.field? kindField entries with
  | none => refuse (.mapping entries) (.noKind entries)
  | some _ => match ofTagged (.mapping entries) with
    | .ok p => .ok p
    | .error (.issues found) => refuse (.mapping entries) (.malformedMapping entries found)
    | .error (.interrupted cause) => .error (.interrupted cause)

/-- The pattern that an entry denotes. -/
def ofValue : Value → Except PatternFault Pattern
  | .text t => ofText t
  | .mapping entries => ofMapping entries
  | value => refuse value (.unsupported value)

/-- The patterns that entries denote, up to the first that denotes none. -/
def ofValues (entries : List Value) : Except PatternFault (List Pattern) := entries.mapM ofValue

end Pattern

end CriticalCss
