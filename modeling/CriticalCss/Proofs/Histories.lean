import CriticalCss.Proofs.Configuring

/-!
# Histories of a session

What is done with a session may fail, and what it did before stays done. Each of its works is written here step by step, as it goes
through the session, and is shown to be what the session's own functions tell of it (`on_asking`, `on_reporting`, `on_configuring`). Over
any history the settings in force are those that were chosen last; if none were chosen, they are those of the environment that was met
when they were first built (`settings_afterAll`, one event after the other by `Event.settings_after`). The right side of this does not look
at what the session held in between.
-/

namespace CriticalCss

open FailingAux

namespace Session

section

variable [Host]

/-! ## Works -/

/-- Work on a session that may fail. -/
abbrev Work (ε α : Type) := ExceptT ε (StateM Session) α

section

variable {ε ε' α β : Type}

/-- What comes of a work, and the session after it. -/
def Work.on (work : Work ε α) (s : Session) : Except ε α × Session := Id.run (StateT.run (ExceptT.run work) s)

/-- A computation that leaves the session alone. -/
def Work.of (x : Except ε α) : Work ε α := ExceptT.mk (pure x)

@[simp] theorem Work.on_of (x : Except ε α) (s : Session) : (Work.of x).on s = (x, s) := rfl

@[simp] theorem Work.on_pure (a : α) (s : Session) : (pure a : Work ε α).on s = (.ok a, s) := rfl

@[simp] theorem Work.on_get (s : Session) : (get : Work ε Session).on s = (.ok s, s) := rfl

@[simp] theorem Work.on_modify (f : Session → Session) (s : Session) : (modify f : Work ε PUnit).on s = (.ok ⟨⟩, f s) := rfl

theorem Work.exists_fault_of_toOption {work : Work ε α} {s : Session} (h : (work.on s).1.toOption = none) :
    ∃ fault t, work.on s = (.error fault, t) := by
  obtain ⟨fault, hfault⟩ := toOption_eq_none_iff.mp h
  exact ⟨fault, (work.on s).2, Prod.ext hfault rfl⟩

/-- A work that fails leaves the session as it is then, and what would come next is not done. -/
@[simp] theorem Work.on_bind (work : Work ε α) (next : α → Work ε β) (s : Session) :
    (work >>= next).on s = match work.on s with
      | (.ok a, t) => (next a).on t
      | (.error fault, t) => (.error fault, t) := by
  unfold Work.on ExceptT.run StateT.run Id.run
  simp only [bind, ExceptT.bind, ExceptT.mk, StateT.bind, ExceptT.bindCont]
  cases work s with
  | mk result t => cases result <;> rfl

@[simp] theorem Work.on_adapt (f : ε → ε') (work : Work ε α) (s : Session) :
    Work.on (ExceptT.adapt f work) s = ((work.on s).1.mapError f, (work.on s).2) := rfl

end

/-! ## What is done with a session -/

/-- Asks for the settings in force; they are built if there are none. -/
def asking : Work SettingsFault Settings := do
  match (← get).settings with
  | some settings => return settings
  | none =>
    let settings ← Work.of (Settings.ofEnvironment (← get).environment)
    modify (·.choose settings)
    return settings

/-- Reports on a file by given settings. Only if none are given, those in force are asked for. -/
def reporting (look : Text → Look) (given : Option Settings) (path : Text) : Work SessionFault Report := do
  let settings ← match given with
    | some settings => pure settings
    | none => asking.adapt .settings
  Work.of ((Report.ofFile look settings path).mapError .report)

/-- Makes the settings that a command line asks for, and chooses them. -/
def configuring (words : Console.ForceWords) (file : Option Text) : Work Console.ConfigurationFault Unit := do
  let patterns ← Work.of (Console.patternSettings (← get).environment words file)
  let settings ← Work.of ((Settings.ofPatterns (← get).environment patterns).mapError .remaining)
  modify (·.choose settings)

theorem on_asking (s : Session) : asking.on s = (s.current, s.settle) := by
  unfold asking settle current
  rw [Work.on_bind, Work.on_get]
  cases hs : s.settings with
  | some settings =>
    obtain ⟨environment, _⟩ := s
    cases hs
    rfl
  | none =>
    simp only [hs, Work.on_bind, Work.on_get, Work.on_of]
    cases Settings.ofEnvironment s.environment with
    | ok settings => simp only [Work.on_modify, Work.on_pure]
    | error fault => rfl

theorem on_reporting (look : Text → Look) (given : Option Settings) (path : Text) (s : Session) :
    (reporting look given path).on s = (s.report look given path, if given.isSome then s else s.settle) := by
  unfold reporting report
  cases given with
  | some settings => rfl
  | none =>
    simp only [Work.on_bind, Work.on_adapt, on_asking]
    cases s.current with
    | ok settings => rfl
    | error fault => rfl

/-- Where configuring fails, at whatever step, the session is the one before. -/
theorem on_configuring (words : Console.ForceWords) (file : Option Text) (s : Session) :
    (configuring words file).on s = match s.configure words file with
      | .ok t => (.ok (), t)
      | .error fault => (.error fault, s) := by
  unfold configuring configure
  simp only [Work.on_bind, Work.on_get, Work.on_of]
  cases Console.patternSettings s.environment words file with
  | error fault => rfl
  | ok patterns =>
    dsimp only
    cases h : (Settings.ofPatterns s.environment patterns).mapError Console.ConfigurationFault.remaining with
    | error fault => simp [h, bind, Except.bind]
    | ok settings => simp [h, bind, Except.bind, pure, Except.pure]

/-- The settings that a command line asks for in an environment. -/
def asked (environment : Environment) (words : Console.ForceWords) (file : Option Text) :
    Except Console.ConfigurationFault Settings := do
  let patterns ← Console.patternSettings environment words file
  (Settings.ofPatterns environment patterns).mapError .remaining

theorem configure_eq_map (s : Session) (words : Console.ForceWords) (file : Option Text) :
    s.configure words file = (asked s.environment words file).map s.choose := by
  unfold configure asked
  cases Console.patternSettings s.environment words file with
  | error fault => rfl
  | ok patterns =>
    cases h : (Settings.ofPatterns s.environment patterns).mapError Console.ConfigurationFault.remaining with
    | error fault => simp [h, bind, Except.bind, Except.map]
    | ok settings => simp [h, bind, Except.bind, pure, Except.pure, Except.map]

/-- Asking leaves what is in force; else what the environment builds comes into force. -/
theorem settings_settle (s : Session) : s.settle.settings = (s.settings <|> (Settings.ofEnvironment s.environment).toOption) := by
  unfold settle current
  cases hs : s.settings with
  | some settings => rfl
  | none =>
    dsimp only
    cases Settings.ofEnvironment s.environment with
    | ok settings => rfl
    | error fault => exact hs

/-- Where the settings in force cannot be told, there are none, and asking changes nothing. -/
theorem settle_of_current_eq_error {s : Session} {fault : SettingsFault} (h : s.current = .error fault) :
    s.settings = none ∧ s.settle = s := by
  constructor
  · unfold current at h
    split at h
    · cases h
    · assumption
  · unfold settle
    rw [h]

theorem environment_settle (s : Session) : s.settle.environment = s.environment := by
  unfold settle
  cases s.current <;> rfl

/-! ## Histories -/

/-- What may happen to a session. Files may have changed from one report to the next. -/
inductive Event
  | setVariable (name : Text) (value : Option Text)
  | ask
  | choose (settings : Settings)
  | report (look : Text → Look) (given : Option Settings) (path : Text)
  | configure (words : Console.ForceWords) (file : Option Text)

namespace Event

/-- The session after an event, whether it succeeds or not. -/
def after (s : Session) : Event → Session
  | setVariable name value => s.setVariable name value
  | ask => (asking.on s).2
  | choose settings => s.choose settings
  | report look given path => ((reporting look given path).on s).2
  | configure words file => ((configuring words file).on s).2

/-- The environment after an event. -/
def environmentAfter (environment : Environment) : Event → Environment
  | setVariable name value => (Session.setVariable { environment := environment } name value).environment
  | _ => environment

/-- The settings that an event chooses in an environment, if it chooses any. -/
def chosen? (environment : Environment) : Event → Option Settings
  | choose settings => some settings
  | configure words file => (asked environment words file).toOption
  | _ => none

/-- The settings that an event which asks for settings builds in an environment, if it can. -/
def built? (environment : Environment) : Event → Option Settings
  | ask | report _ none _ => (Settings.ofEnvironment environment).toOption
  | _ => none

theorem environment_after (s : Session) (e : Event) : (e.after s).environment = e.environmentAfter s.environment := by
  cases e with
  | setVariable | choose => rfl
  | ask =>
    rw [after, on_asking]
    exact environment_settle s
  | report look given path =>
    rw [after, on_reporting]
    cases given with
    | none => exact environment_settle s
    | some settings => rfl
  | configure words file =>
    rw [after, on_configuring, configure_eq_map]
    cases asked s.environment words file <;> rfl

/-- One event: what it chooses comes into force; else what is in force stays; else what it builds comes into force. -/
theorem settings_after (s : Session) (e : Event) :
    (e.after s).settings = (e.chosen? s.environment <|> s.settings <|> e.built? s.environment) := by
  have hkept : s.settings = (s.settings <|> none) := by simp
  cases e with
  | setVariable => exact hkept
  | ask =>
    rw [after, on_asking]
    exact settings_settle s
  | choose => rfl
  | report look given path =>
    rw [after, on_reporting]
    cases given with
    | none => exact settings_settle s
    | some settings => exact hkept
  | configure words file =>
    rw [after, on_configuring, configure_eq_map, chosen?]
    cases asked s.environment words file with
    | error fault => exact hkept
    | ok settings => rfl

end Event

/-- The session after a history. -/
def afterAll (s : Session) (history : List Event) : Session := history.foldl Event.after s

/-- The events of a history, each with the environment that it meets. -/
def met (environment : Environment) : List Event → List (Environment × Event)
  | [] => []
  | e :: history => (environment, e) :: met (e.environmentAfter environment) history

/-- The settings that a history chooses last. -/
def lastChosen? (environment : Environment) (history : List Event) : Option Settings :=
  ((met environment history).filterMap fun m => m.2.chosen? m.1).getLast?

/-- The settings that a history builds first: those of the first environment in which settings are asked for and can be built. -/
def firstBuilt? (environment : Environment) (history : List Event) : Option Settings :=
  ((met environment history).filterMap fun m => m.2.built? m.1).head?

theorem lastChosen?_cons (environment : Environment) (e : Event) (history : List Event) :
    lastChosen? environment (e :: history) =
      (lastChosen? (e.environmentAfter environment) history <|> e.chosen? environment) := by
  unfold lastChosen?
  rw [met, List.filterMap_cons]
  cases e.chosen? environment with
  | none => simp
  | some settings => rw [List.getLast?_cons]; simp

theorem firstBuilt?_cons (environment : Environment) (e : Event) (history : List Event) :
    firstBuilt? environment (e :: history) =
      (e.built? environment <|> firstBuilt? (e.environmentAfter environment) history) := by
  unfold firstBuilt?
  rw [met, List.filterMap_cons]
  cases e.built? environment <;> rfl

theorem environment_afterAll (s : Session) (history : List Event) :
    (s.afterAll history).environment = history.foldl Event.environmentAfter s.environment := by
  induction history generalizing s with
  | nil => rfl
  | cons e history ih =>
    rw [List.foldl_cons, ← Event.environment_after]
    exact ih (e.after s)

/-- A history: what it chooses last comes into force; else what was in force stays; else what it builds first comes into force. -/
theorem settings_afterAll (s : Session) (history : List Event) :
    (s.afterAll history).settings =
      (lastChosen? s.environment history <|> s.settings <|> firstBuilt? s.environment history) := by
  induction history generalizing s with
  | nil => simp [afterAll, lastChosen?, firstBuilt?, met]
  | cons e history ih =>
    have hrest := ih (e.after s)
    rw [Event.environment_after, Event.settings_after] at hrest
    rw [lastChosen?_cons, firstBuilt?_cons]
    refine Eq.trans hrest ?_
    cases lastChosen? (e.environmentAfter s.environment) history <;> cases e.chosen? s.environment <;> cases s.settings <;> rfl

/-- Over any history of a session that began without settings, in four parts.
1. Asking gives what was chosen last, or else what was built first, or else what the environment builds now.
2. Asking that fails leaves the session as it is, without settings, and the next time they are built of the environment there is then.
3. Configuring chooses the settings that are asked for in the environment; where it fails, at whatever step, the session is as before.
4. A report by given settings is the same in any session, and leaves it as it is. -/
theorem settings_of_history (environment : Environment) (history : List Event) :
    let s := Session.afterAll { environment := environment } history
    (s.environment = history.foldl Event.environmentAfter environment ∧
      (asking.on s).1 = match lastChosen? environment history <|> firstBuilt? environment history with
        | some settings => .ok settings
        | none => Settings.ofEnvironment s.environment) ∧
    (∀ fault t, asking.on s = (.error fault, t) → t = s ∧ t.settings = none ∧
      ∀ later, (asking.on { t with environment := later }).1 = Settings.ofEnvironment later) ∧
    (∀ words file, (configuring words file).on s = match asked s.environment words file with
      | .ok settings => (.ok (), s.choose settings)
      | .error fault => (.error fault, s)) ∧
    (∀ look settings path, ∃ answer, ∀ t, (reporting look (some settings) path).on t = (answer, t)) := by
  intro s
  have hsettings : s.settings = (lastChosen? environment history <|> firstBuilt? environment history) :=
    settings_afterAll { environment := environment } history
  refine ⟨⟨environment_afterAll { environment := environment } history, ?_⟩, ?_, ?_, ?_⟩
  · rw [on_asking, ← hsettings]
    rfl
  · intro fault t h
    rw [on_asking] at h
    obtain ⟨hcurrent, rfl⟩ := Prod.mk.inj h
    obtain ⟨hnone, hsettle⟩ := settle_of_current_eq_error hcurrent
    rw [hsettle]
    refine ⟨rfl, hnone, fun later => ?_⟩
    rw [on_asking, hnone]
    rfl
  · intro words file
    rw [on_configuring, configure_eq_map]
    cases asked s.environment words file <;> rfl
  · intro look settings path
    exact ⟨_, fun t => on_reporting look (some settings) path t⟩

end

namespace Repaired

open Host.Plain

/-- The variable of the patterns that keep. -/
def keepVariable : Text := "FOLDLINE_PATTERNS_FORCE_INCLUDE".toList

/-- An environment in which this variable cannot be read. -/
def broken : Environment := [(keepVariable, "[".toList)]

/-- Words of a command line that are no pattern. -/
def words : Console.ForceWords := ⟨["/(/".toList], []⟩

/-- The variable is repaired after a first ask, and taken away after a second one; then a command line fails. -/
def history : List Event :=
  [.ask, .setVariable keepVariable (some "[\x7b\"kind\": \"literal\", \"value\": \".a\"\x7d]".toList), .ask,
    .setVariable keepVariable none, .configure words none]

end Repaired

open Host.Plain Repaired in
/-- The first ask fails and leaves the session as it is. The settings that the second one built are in force at the end, where another
command line fails as well and leaves the session as it is. -/
theorem settings_of_repaired :
    (∃ fault, asking.on { environment := broken } = (.error fault, { environment := broken })) ∧
    (asking.on (Session.afterAll { environment := broken } history)).1 = .ok ⟨⟨⟨[.literal ".a".toList], []⟩, none⟩⟩ ∧
    ∃ fault, (configuring words none).on (Session.afterAll { environment := broken } history) =
      (.error fault, Session.afterAll { environment := broken } history) := by
  obtain ⟨-, hfails, -, -⟩ := settings_of_history broken []
  obtain ⟨⟨-, hasked⟩, -, hconfigured, -⟩ := settings_of_history broken history
  have hchosen : lastChosen? broken history = none := by decide +kernel
  have hbuilt : firstBuilt? broken history = some ⟨⟨⟨[.literal ".a".toList], []⟩, none⟩⟩ := by decide +kernel
  rw [hchosen, hbuilt] at hasked
  have hfirst : (asking.on { environment := broken }).1.toOption = none := by decide +kernel
  have hlast : (asked (Session.afterAll { environment := broken } history).environment words none).toOption = none := by
    decide +kernel
  obtain ⟨fault, t, hfirst⟩ := Work.exists_fault_of_toOption hfirst
  obtain ⟨fault', hlast⟩ := toOption_eq_none_iff.mp hlast
  have hunchanged := (hfails fault t hfirst).1
  rw [hunchanged] at hfirst
  have hconfigured := hconfigured words none
  rw [hlast] at hconfigured
  exact ⟨⟨fault, hfirst⟩, hasked, fault', hconfigured⟩

end Session

end CriticalCss
