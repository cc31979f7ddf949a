import CriticalCss.Proofs.Entries
import CriticalCss.Proofs.Layouts
import CriticalCss.Proofs.Sending

/-!
# Configuring a session

Which patterns a command judges by. The settings that a command line asks for are those of the variables with its own patterns behind
them (`Console.patternSettings_eq_ok_iff`), and the session that is configured with them keeps to them whatever else the environment
holds (`Session.configure_eq_ok_iff`). So the patterns in force are those of the variables, then those of the command line, then those of
one file (`patterns_in_force`).

A command line without patterns asks for what the variables of the lists say. The variable of patterns, which a session without a command
line goes by, is looked at and left aside: the document is that of such a session only as long as this variable says nothing
(`document_without_options`), and another one where it says something (`document_of_patternsVariable_differs`). The document is not all
that is put out: the lines of the log that the level admits stand before it, as far as the standard output can hold them.
-/

namespace CriticalCss

open FailingAux

section

variable [Host]

/-! ## Settings -/

namespace PatternFile

/-- What a file adds to some lists: nothing if there is none, and else the patterns that it holds. -/
def Adds (look : Text → Look) : Option Text → ForceLists → Prop
  | none, more => more = {}
  | some path, more => Holds look path more

end PatternFile

namespace PatternSettings

theorem fileLists_eq_ok_iff {look : Text → Look} {s : PatternSettings} {more : ForceLists} :
    s.fileLists look = .ok more ↔ PatternFile.Adds look s.file more := by
  unfold fileLists
  cases s.file with
  | none => exact ⟨fun h => (Except.ok.inj h).symm, fun h => congrArg _ h.symm⟩
  | some path => exact PatternFile.read_eq_ok_iff

/-- The patterns to judge by are those of the settings and then those that the file adds. -/
theorem resolve_eq_ok_iff {look : Text → Look} {s : PatternSettings} {force : ForceLists} :
    s.resolve look = .ok force ↔ ∃ more, PatternFile.Adds look s.file more ∧ force = s.lists.append more := by
  unfold resolve
  simp only [bind_eq_ok_iff, fileLists_eq_ok_iff]
  constructor
  · rintro ⟨more, hmore, h⟩
    exact ⟨more, hmore, (Except.ok.inj h).symm⟩
  · rintro ⟨more, hmore, rfl⟩
    exact ⟨more, hmore, rfl⟩

/-- Where the environment has settings, its variables can be read a second time, and what is given counts. -/
theorem ofParts_of_ofEnvironment {environment : Environment} {base : PatternSettings} (h : ofEnvironment environment = .ok base)
    (lists : ForceLists) (file : Option Text) : ofParts environment lists file = .ok ⟨lists, file⟩ := by
  obtain ⟨hkeep, hdrop, -⟩ := ofEnvironment_eq_ok_iff.mp h
  obtain ⟨keep, hkeep, -⟩ := variableHolds_iff.mp hkeep
  obtain ⟨drop, hdrop, -⟩ := variableHolds_iff.mp hdrop
  exact bind_eq_ok_iff.mpr ⟨keep, hkeep, bind_eq_ok_iff.mpr ⟨drop, hdrop, rfl⟩⟩

end PatternSettings

namespace Console

/-- A command line adds its patterns behind those of the environment, and its file stands in for the environment's. -/
theorem patternSettings_eq_ok_iff {environment : Environment} {words : ForceWords} {file : Option Text} {s : PatternSettings} :
    patternSettings environment words file = .ok s ↔
      ∃ base keep drop, PatternSettings.ofEnvironment environment = .ok base ∧
        Pattern.ofValues (words.keep.map .text) = .ok keep ∧ Pattern.ofValues (words.drop.map .text) = .ok drop ∧
        s = ⟨base.lists.append ⟨keep, drop⟩, file <|> base.file⟩ := by
  unfold patternSettings
  simp only [bind_eq_ok_iff, mapError_eq_ok_iff]
  constructor
  · rintro ⟨base, hbase, keep, hkeep, drop, hdrop, h⟩
    rw [PatternSettings.ofParts_of_ofEnvironment hbase] at h
    exact ⟨base, keep, drop, hbase, hkeep, hdrop, (Except.ok.inj h).symm⟩
  · rintro ⟨base, keep, drop, hbase, hkeep, hdrop, rfl⟩
    exact ⟨base, hbase, keep, hkeep, drop, hdrop, PatternSettings.ofParts_of_ofEnvironment hbase _ _⟩

end Console

/-! ## Sessions -/

namespace Session

variable {look : Text → Look}

/-- The settings that a session chose are in force. -/
theorem current_choose (s : Session) (settings : Settings) : (s.choose settings).current = .ok settings := rfl

/-- A session is configured if its settings can be made and its variable of patterns can be read; the variable does not count. -/
theorem configure_eq_ok_iff {s t : Session} {words : Console.ForceWords} {file : Option Text} :
    s.configure words file = .ok t ↔
      ∃ patterns value, Console.patternSettings s.environment words file = .ok patterns ∧
        Settings.patternsValue s.environment = .ok value ∧ t = s.choose ⟨patterns⟩ := by
  unfold configure Settings.ofPatterns
  simp only [bind_eq_ok_iff, mapError_eq_ok_iff]
  constructor
  · rintro ⟨patterns, hpatterns, settings, ⟨value, hvalue, hsettings⟩, h⟩
    cases hsettings
    exact ⟨patterns, value, hpatterns, hvalue, (Except.ok.inj h).symm⟩
  · rintro ⟨patterns, value, hpatterns, hvalue, rfl⟩
    exact ⟨patterns, hpatterns, ⟨patterns⟩, ⟨value, hvalue, rfl⟩, rfl⟩

/-- The patterns that a session judges by: those of its settings in force, and of their file. -/
def InForce (look : Text → Look) (s : Session) (force : ForceLists) : Prop :=
  ∃ settings, s.current = .ok settings ∧ settings.patterns.resolve look = .ok force

/-- A session judges by one pair of lists. -/
theorem InForce.unique {s : Session} {force force' : ForceLists} (h : s.InForce look force) (h' : s.InForce look force') :
    force = force' := by
  obtain ⟨settings, hs, hr⟩ := h
  obtain ⟨settings', hs', hr'⟩ := h'
  cases hs.symm.trans hs'
  exact Except.ok.inj (hr.symm.trans hr')

/-- Where patterns are in force, every stylesheet that can be read has a report, and its profile is made by them. -/
theorem InForce.report {s : Session} {force : ForceLists} (h : s.InForce look force) {path : Text} {source : List UInt8}
    (hsource : Report.sourceAt look path = .ok source) :
    ∃ notes, s.report look none path = .ok (Report.ofSource path source force notes) := by
  obtain ⟨settings, hs, hr⟩ := h
  refine ⟨settings.patterns.notes look, bind_eq_ok_iff.mpr ⟨settings, mapError_eq_ok_iff.mpr hs, mapError_eq_ok_iff.mpr ?_⟩⟩
  exact bind_eq_ok_iff.mpr ⟨source, hsource, bind_eq_ok_iff.mpr ⟨force, mapError_eq_ok_iff.mpr hr, rfl⟩⟩

end Session

/-! ## Commands -/

namespace Console

variable {look : Text → Look} {environment : Environment}

theorem failed_code (before : List Piece) (fault : CommandFault) : (Outcome.failed before fault).code = 1 := by
  cases fault <;> rfl

/-- A profile is shown if a session can be configured for it and has a report. -/
theorem profile_of_report {order : ProfileOrder} {session : Session} {report : Report}
    (hsession : ({ environment := environment } : Session).configure order.force order.patterns = .ok session)
    (hreport : session.report look none order.path = .ok report) :
    profile look environment order = shownReport look order report := by
  unfold profile
  rw [hsession]
  simp only [hreport]

/-- A profile that ends well was shown. -/
theorem report_of_profile {order : ProfileOrder} (h : (profile look environment order).code = 0) :
    ∃ session report, ({ environment := environment } : Session).configure order.force order.patterns = .ok session ∧
      session.report look none order.path = .ok report := by
  unfold profile at h
  cases hsession : ({ environment := environment } : Session).configure order.force order.patterns with
  | error fault => simp [hsession, failed_code] at h
  | ok session =>
    cases hreport : session.report look none order.path with
    | error fault => cases fault <;> simp [hsession, hreport, failed_code] at h
    | ok report => exact ⟨session, report, rfl, hreport⟩

/-- A single selector is judged by the patterns in force. -/
theorem judge_of_inForce {order : NormalizeOrder} {session : Session} {force : ForceLists}
    (hsession : ({ environment := environment } : Session).configure order.force none = .ok session)
    (h : session.InForce look force) : judge look environment order = .ok (Selector.classify force order.selector) := by
  obtain ⟨settings, hsettings, hresolve⟩ := h
  have hforce : forceOf look environment order.force = .ok (force, settings.patterns.notes look) :=
    bind_eq_ok_iff.mpr ⟨session, mapError_eq_ok_iff.mpr hsession, bind_eq_ok_iff.mpr ⟨settings, mapError_eq_ok_iff.mpr hsettings,
      bind_eq_ok_iff.mpr ⟨force, mapError_eq_ok_iff.mpr hresolve, rfl⟩⟩⟩
  rw [judge, hforce]
  rfl

end Console

/-! ## The patterns of a command line -/

/-- Patterns from three places, those of one place behind those of the other. -/
def ForceLists.inOrder (a b c : ForceLists) : ForceLists := ⟨a.keep ++ b.keep ++ c.keep, a.drop ++ b.drop ++ c.drop⟩

/-- The patterns that a command judges by, when the variables of the environment can be read, the words of the command line are
patterns, and the file is a file of patterns, in four parts.
1. A session can be configured, and the patterns in force are those of the variables, then those of the command line, then those of the
   file, each in their order, and no others. The file is that of the command line, if it names one, and else that of the environment.
2. Asking the session for its settings changes nothing about it, so that the same patterns are in force afterwards.
3. The command that makes a profile shows, for every stylesheet that can be read, the profile by these patterns.
4. The command that judges a single selector, which has no option for a file, goes by the same patterns. -/
theorem patterns_in_force (look : Text → Look) (environment : Environment) (words : Console.ForceWords) (option : Option Text)
    (inVariables inWords inFile : ForceLists)
    (hkeepVariable : PatternSettings.VariableHolds environment PatternFile.keepKey inVariables.keep)
    (hdropVariable : PatternSettings.VariableHolds environment PatternFile.dropKey inVariables.drop)
    (hvariable : ∃ value, Settings.patternsValue environment = .ok value)
    (hkeepWords : List.Forall₂ (fun word p => Pattern.ofText word = .ok p) words.keep inWords.keep)
    (hdropWords : List.Forall₂ (fun word p => Pattern.ofText word = .ok p) words.drop inWords.drop)
    (hfile : PatternFile.Adds look (option <|> PatternSettings.fileVariable environment) inFile) :
    ∃ session : Session, ({ environment := environment } : Session).configure words option = .ok session ∧
      (∀ force, session.InForce look force ↔ force = .inOrder inVariables inWords inFile) ∧
      session.settle = session ∧
      (∀ (order : Console.ProfileOrder) (source : List UInt8), order.force = words → order.patterns = option →
        Report.sourceAt look order.path = .ok source → ∃ notes, Console.profile look environment order =
          Console.shownReport look order (.ofSource order.path source (.inOrder inVariables inWords inFile) notes)) ∧
      (option = none → ∀ order : Console.NormalizeOrder, order.force = words → Console.judge look environment order =
        .ok (Selector.classify (.inOrder inVariables inWords inFile) order.selector)) := by
  obtain ⟨value, hvalue⟩ := hvariable
  have hbase : PatternSettings.ofEnvironment environment = .ok ⟨inVariables, PatternSettings.fileVariable environment⟩ :=
    PatternSettings.ofEnvironment_eq_ok_iff.mpr ⟨hkeepVariable, hdropVariable, rfl⟩
  have hpatterns : Console.patternSettings environment words option =
      .ok ⟨inVariables.append inWords, option <|> PatternSettings.fileVariable environment⟩ :=
    Console.patternSettings_eq_ok_iff.mpr ⟨_, _, _, hbase, Pattern.ofValues_text_eq_ok_iff.mpr hkeepWords,
      Pattern.ofValues_text_eq_ok_iff.mpr hdropWords, rfl⟩
  have hconfigure := Session.configure_eq_ok_iff (s := { environment := environment }).mpr ⟨_, value, hpatterns, hvalue, rfl⟩
  have hinForce : Session.InForce look _ (.inOrder inVariables inWords inFile) :=
    ⟨_, Session.current_choose { environment := environment } ⟨⟨inVariables.append inWords, _⟩⟩,
      PatternSettings.resolve_eq_ok_iff.mpr ⟨inFile, hfile, rfl⟩⟩
  refine ⟨_, hconfigure, fun force => ⟨fun h => h.unique hinForce, fun h => h ▸ hinForce⟩, rfl, ?_, ?_⟩
  · rintro order source rfl rfl hsource
    obtain ⟨notes, hreport⟩ := hinForce.report hsource
    exact ⟨notes, Console.profile_of_report hconfigure hreport⟩
  · rintro rfl order rfl
    exact Console.judge_of_inForce hconfigure hinForce

end

namespace ThreePlaces

/-- An environment with a pattern that keeps, and with the name of a file. -/
def environment : Environment :=
  [("FOLDLINE_PATTERNS_FORCE_INCLUDE".toList, "[\x7b\"kind\": \"literal\", \"value\": \".a\"\x7d]".toList),
    ("FOLDLINE_PATTERNS_FILE".toList, "more.yml".toList)]

/-- The file that the environment names, and a stylesheet. -/
def files : Files :=
  [("more.yml".toList, Utf8.encode "force_include: [.c]\nforce_exclude: [.e]\n".toList),
    ("a.css".toList, Utf8.encode ".a, .e \x7b\x7d".toList)]

/-- The patterns of a command line. -/
def words : Console.ForceWords := ⟨[".b".toList], [".d".toList]⟩

end ThreePlaces

open Host.Plain ThreePlaces in
/-- The patterns of a variable, a command line and a file that the environment names, as they are in force. -/
theorem patterns_of_threePlaces : ∃ session : Session,
    ({ environment := environment } : Session).configure words none = .ok session ∧
    ∀ force, session.InForce files.look force ↔ force =
      ⟨[.literal ".a".toList, .literal ".b".toList, .literal ".c".toList], [.literal ".d".toList, .literal ".e".toList]⟩ := by
  have hbase : PatternSettings.ofEnvironment environment = .ok ⟨⟨[.literal ".a".toList], []⟩, some "more.yml".toList⟩ := by
    decide +kernel
  have hread : PatternFile.read files.look "more.yml".toList = .ok ⟨[.literal ".c".toList], [.literal ".e".toList]⟩ :=
    toOption_eq_some_iff.mp (by decide +kernel)
  obtain ⟨hkeep, hdrop, hfile⟩ := PatternSettings.ofEnvironment_eq_ok_iff.mp hbase
  have hadds : PatternFile.Adds files.look (none <|> PatternSettings.fileVariable environment)
      ⟨[.literal ".c".toList], [.literal ".e".toList]⟩ := by
    rw [← hfile]
    exact PatternFile.read_eq_ok_iff.mp hread
  obtain ⟨session, hconfigure, hinForce, -⟩ := patterns_in_force files.look environment words none
    ⟨[.literal ".a".toList], []⟩ ⟨[.literal ".b".toList], [.literal ".d".toList]⟩ ⟨[.literal ".c".toList], [.literal ".e".toList]⟩
    hkeep hdrop ⟨none, rfl⟩ (.cons rfl .nil) (.cons rfl .nil) hadds
  exact ⟨session, hconfigure, hinForce⟩

/-! ## Command lines without patterns -/

namespace Console

/-- The line that asks for the document of a stylesheet and for nothing else. -/
def documentLine (path : Text) : List Text := [profileName, path, "--format".toList, "json".toList]

/-- A command takes words that ask for no description, if nothing is wrong with their options and their places. -/
theorem accept_of_readWords {look : Text → Look} {f : CommandForm} {arguments : List Text} {words : Words}
    (hwords : f.readWords arguments = .ok words) (hhelp : words.has helpName = false) (hhandsOn : f.handsOn = false)
    (hoptions : words.names.findSome? (f.optionFault? look words) = none)
    (hplaces : CommandForm.argumentFault? look f.arguments words.plain = none) : f.accept look arguments = .ok (some words) := by
  unfold CommandForm.accept
  simp [hwords, hhelp, hhandsOn, hoptions, hplaces, bind, Except.bind, pure, Except.pure]

/-- That line is read as the order for the document, wherever its path leads to a file and does not look like an option. -/
theorem ofArguments_documentLine {look : Text → Look} {path : Text} {source : List UInt8} (hpath : look path = .file source)
    (hword : CommandForm.namesOption path = false) :
    Order.ofArguments look (documentLine path) = .ok (.profile { path := Path.normal path, asDocument := true }) := by
  have hdashes : path ≠ ['-', '-'] := by
    rintro rfl
    cases hword
  have hwords : profileForm.readWords [path, "--format".toList, "json".toList] =
      .ok { options := [⟨shapeOption.name, "json".toList⟩], plain := [path] } := by
    unfold CommandForm.readWords
    simp only [hdashes, hword, if_false, Bool.false_eq_true]
    rfl
  have hplaces : CommandForm.argumentFault? look profileForm.arguments [path] = none := by
    simp [profileForm, CommandForm.argumentFault?, ValueKind.fault?, hpath]
  show Order.ofCommand look profileForm _ [path, "--format".toList, "json".toList] = _
  unfold Order.ofCommand
  rw [accept_of_readWords hwords rfl rfl rfl hplaces]
  rfl

end Console

section

variable [Host]

namespace Settings

/-- Whether the variable of patterns says nothing: it is not set, or null, or a mapping without entries. -/
def IsSilent (environment : Environment) : Prop :=
  patternsValue environment = .ok none ∨ patternsValue environment = .ok (some (.mapping []))

theorem isSilent_of_unset {environment : Environment} (h : environment.value? patternsVariable = none) : IsSilent environment := by
  left
  unfold patternsValue Environment.fieldValue
  rw [h]

/-- Where the variable of patterns says nothing, the settings are those of the other variables. -/
theorem ofEnvironment_eq_ok_iff_of_isSilent {environment : Environment} (h : IsSilent environment) {patterns : PatternSettings} :
    ofEnvironment environment = .ok ⟨patterns⟩ ↔ PatternSettings.ofEnvironment environment = .ok patterns := by
  have hwrapped : ∀ x : Except SettingsFault PatternSettings, (x >>= fun found => pure (Settings.mk found)) = .ok ⟨patterns⟩ ↔
      x = .ok patterns := by
    intro x
    cases x <;> simp [pure, Except.pure, bind, Except.bind]
  unfold ofEnvironment
  rcases h with h | h
  · rw [h]
    exact hwrapped _
  · rw [h]
    exact (hwrapped _).trans mapError_eq_ok_iff

end Settings

namespace Session

variable {look : Text → Look} {environment : Environment} {path : Text} {report : Report}

/-- The report on a file by the variables of the lists and of their file alone. The variable of patterns is looked at and left aside. -/
def ReportsByLists (look : Text → Look) (s : Session) (path : Text) (report : Report) : Prop :=
  ∃ base value, PatternSettings.ofEnvironment s.environment = .ok base ∧ Settings.patternsValue s.environment = .ok value ∧
    s.report look (some ⟨base⟩) path = .ok report

theorem report_choose (s : Session) (settings : Settings) :
    (s.choose settings).report look none path = s.report look (some settings) path := rfl

/-- A session that is configured without patterns reports by the lists of its environment. -/
theorem reportsByLists_iff {s : Session} : s.ReportsByLists look path report ↔
    ∃ t, s.configure {} none = .ok t ∧ t.report look none path = .ok report := by
  constructor
  · rintro ⟨base, value, hbase, hvalue, hreport⟩
    have hpatterns : Console.patternSettings s.environment {} none = .ok base :=
      Console.patternSettings_eq_ok_iff.mpr ⟨base, [], [], hbase, rfl, rfl, by simp [ForceLists.append]⟩
    exact ⟨_, configure_eq_ok_iff.mpr ⟨base, value, hpatterns, hvalue, rfl⟩, hreport⟩
  · rintro ⟨t, ht, hreport⟩
    obtain ⟨patterns, value, hpatterns, hvalue, rfl⟩ := configure_eq_ok_iff.mp ht
    obtain ⟨base, keep, drop, hbase, hkeep, hdrop, rfl⟩ := Console.patternSettings_eq_ok_iff.mp hpatterns
    obtain rfl := List.forall₂_nil_left_iff.mp (Pattern.ofValues_text_eq_ok_iff.mp hkeep)
    obtain rfl := List.forall₂_nil_left_iff.mp (Pattern.ofValues_text_eq_ok_iff.mp hdrop)
    have hbase' : (⟨base.lists.append ⟨[], []⟩, none <|> base.file⟩ : PatternSettings) = base := by simp [ForceLists.append]
    exact ⟨base, value, hbase, hvalue, by rwa [hbase', report_choose] at hreport⟩

/-- As long as the variable of patterns says nothing, a session that was asked for nothing yet reports by the lists too. -/
theorem reportsByLists_iff_of_isSilent (h : Settings.IsSilent environment) :
    ({ environment := environment } : Session).ReportsByLists look path report ↔
      ({ environment := environment } : Session).report look none path = .ok report := by
  constructor
  · rintro ⟨base, value, hbase, -, hreport⟩
    have hsettings := (Settings.ofEnvironment_eq_ok_iff_of_isSilent h).mpr hbase
    exact bind_eq_ok_iff.mpr ⟨⟨base⟩, mapError_eq_ok_iff.mpr hsettings, hreport⟩
  · intro hreport
    obtain ⟨⟨base⟩, hsettings, hreport⟩ := bind_eq_ok_iff.mp hreport
    have hbase := (Settings.ofEnvironment_eq_ok_iff_of_isSilent h).mp (mapError_eq_ok_iff.mp hsettings)
    obtain ⟨value, hvalue⟩ : ∃ value, Settings.patternsValue environment = .ok value := h.elim (⟨_, ·⟩) (⟨_, ·⟩)
    exact ⟨base, value, hbase, hvalue, hreport⟩

end Session

namespace Console

/-- A run that ends with zero let nothing stop it. -/
theorem code_of_sent {o : Outcome} (h : o.sent.code = 0) : o.code = 0 := by
  unfold Outcome.sent at h
  split at h
  · exact h
  · cases h

end Console

/-- The text of a document with a line break behind it is ASCII, and so every standard output can hold it. -/
theorem Document.sendable (d : Document) : Host.unsendable? (d.toJson.pretty ++ ['\n']) = none := by
  refine Host.ascii_sendable _ fun c hc => ?_
  rcases List.mem_append.mp hc with hc | hc
  · rcases d.spells_pretty.chars c hc with hprintable | rfl
    · exact Nat.lt_of_le_of_lt hprintable.2 (by decide)
    · decide
  · rw [List.mem_singleton.mp hc]
    decide

/-- A document that is shown is put out whole, behind the notes that the standard output can hold. -/
theorem Console.sent_shownReport (look : Text → Look) (path : Text) (level : LogLevel) (report : Report) :
    ∃ notes : List Note, notes.Sublist (report.journal.filter fun n => level.admits n.weight) ∧
      ((∀ n ∈ report.journal, Host.unsendable? (Piece.note n).text = none) → notes = report.journal.filter fun n => level.admits n.weight) ∧
      (shownReport look { path := path, asDocument := true, level := level } report).sent =
        { output := notes.map .note ++ [.plain (report.document.toJson.pretty ++ ['\n'])] } := by
  have hoption := report.document.sendable
  obtain ⟨notes, hsub, hsent⟩ := exists_send_notes [] (report.journal.filter fun n => level.admits n.weight) hoption
  have hshown : shownReport look { path := path, asDocument := true, level := level } report =
      { output := (report.journal.filter fun n => level.admits n.weight).map .note ++
          [.plain (report.document.toJson.pretty ++ ['\n'])] } := rfl
  refine ⟨notes, hsub, fun hall => ?_, ?_⟩
  · have hwhole : send [] ((report.journal.filter fun n => level.admits n.weight).map .note ++
        [.plain (report.document.toJson.pretty ++ ['\n'])]) = _ := send_eq_self (by
      rw [List.forall_mem_append, List.forall_mem_map]
      refine ⟨fun n hn => hall n (List.mem_of_mem_filter hn), ?_⟩
      rintro p hp
      rw [List.mem_singleton.mp hp]
      exact hoption)
    obtain ⟨hnotes, -⟩ := Prod.mk.inj (hsent.symm.trans hwhole)
    exact List.map_injective_iff.mpr (fun _ _ h => Piece.note.inj h) (List.append_cancel_right hnotes)
  · rw [hshown, Outcome.sent, hsent]

/-- What a command line without patterns puts out, in three parts.
1. Whenever the lists of the environment have a report on the stylesheet, the command ends well and puts out the document of this report
   behind lines of the log, and nothing else. These lines are notes of the report that the level admits; if the standard output can hold
   each of them, they are all there.
2. A command that ends well has put out such a document.
3. As long as the variable of patterns says nothing, these reports are those of a session without a command line. -/
theorem document_without_options (look : Text → Look) (environment : Environment) (arguments : List Text) (path : Text) (level : LogLevel)
    (hread : Console.Order.ofArguments look arguments = .ok (.profile { path := path, asDocument := true, level := level })) :
    (∀ report, ({ environment := environment } : Session).ReportsByLists look path report →
      ∃ notes : List Note, notes.Sublist (report.journal.filter fun n => level.admits n.weight) ∧
        ((∀ n ∈ report.journal, Host.unsendable? (Console.Piece.note n).text = none) →
          notes = report.journal.filter fun n => level.admits n.weight) ∧
        Console.run look environment arguments = { output := notes.map .note ++ [.plain (report.document.toJson.pretty ++ ['\n'])] }) ∧
    ((Console.run look environment arguments).code = 0 →
      ∃ report, ({ environment := environment } : Session).ReportsByLists look path report) ∧
    (Settings.IsSilent environment → ∀ report, ({ environment := environment } : Session).ReportsByLists look path report ↔
      ({ environment := environment } : Session).report look none path = .ok report) := by
  have hrun : Console.run look environment arguments =
      (Console.profile look environment { path := path, asDocument := true, level := level }).sent := by
    unfold Console.run
    rw [hread]
    rfl
  rw [hrun]
  refine ⟨?_, ?_, fun hsilent report => Session.reportsByLists_iff_of_isSilent hsilent⟩
  · intro report h
    obtain ⟨session, hsession, hreport⟩ := Session.reportsByLists_iff.mp h
    rw [Console.profile_of_report hsession hreport]
    exact Console.sent_shownReport look path level report
  · intro hcode
    obtain ⟨session, report, hsession, hreport⟩ := Console.report_of_profile (Console.code_of_sent hcode)
    exact ⟨report, Session.reportsByLists_iff.mpr ⟨session, hsession, hreport⟩⟩

end

open Host.Plain ThreePlaces in
/-- A list and a file of the environment count on a command line without patterns as they do without a command line. -/
theorem document_of_threePlaces : ∃ report,
    ({ environment := environment } : Session).report files.look none "a.css".toList = .ok report ∧
    Console.run files.look environment (Console.documentLine "a.css".toList) =
      { output := [.plain (report.document.toJson.pretty ++ ['\n'])] } ∧
    report.profile.classifications = [(1, .keep), (2, .drop)] := by
  obtain ⟨hprinted, hended, hsilent⟩ := document_without_options files.look environment (Console.documentLine "a.css".toList)
    "a.css".toList .warning (Console.ofArguments_documentLine rfl rfl)
  obtain ⟨report, hreport⟩ := hended (by decide +kernel)
  have hlibrary := (hsilent (Settings.isSilent_of_unset (by decide +kernel)) report).mp hreport
  obtain ⟨_, hfound, hjudged, hquiet⟩ : ∃ found,
      ({ environment := environment } : Session).report files.look none "a.css".toList = .ok found ∧
      found.profile.classifications = [(1, .keep), (2, .drop)] ∧
      (found.journal.filter fun n => LogLevel.warning.admits n.weight) = [] := exists_ok_of_any (by decide +kernel)
  cases hlibrary.symm.trans hfound
  obtain ⟨notes, -, hall, hrun⟩ := hprinted _ hreport
  rw [hall fun _ _ => rfl, hquiet] at hrun
  exact ⟨_, hlibrary, hrun, hjudged⟩

namespace PatternsVariable

/-- An environment whose variable of patterns has a pattern that drops. -/
def environment : Environment :=
  [("FOLDLINE_PATTERNS".toList, "\x7b\"force_exclude\": [\x7b\"kind\": \"literal\", \"value\": \":root\"\x7d]\x7d".toList)]

/-- A stylesheet with a selector that is kept, unless it is to be dropped. -/
def files : Files := [("a.css".toList, Utf8.encode ":root \x7b\x7d".toList)]

end PatternsVariable

open Host.Plain PatternsVariable in
/-- A pattern of the variable of patterns does not count on a command line, although it counts without one: the two documents differ. -/
theorem document_of_patternsVariable_differs :
    Console.Order.ofArguments files.look (Console.documentLine "a.css".toList) =
      .ok (.profile { path := "a.css".toList, asDocument := true }) ∧
    (Console.run files.look environment (Console.documentLine "a.css".toList)).code = 0 ∧
    ∃ report, ({ environment := environment } : Session).report files.look none "a.css".toList = .ok report ∧
      (Console.run files.look environment (Console.documentLine "a.css".toList)).printed ≠ report.document.toJson.pretty ++ ['\n'] :=
  ⟨Console.ofArguments_documentLine rfl rfl, by decide +kernel, exists_ok_of_any (by decide +kernel)⟩

end CriticalCss
