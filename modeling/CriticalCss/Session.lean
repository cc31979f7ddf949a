import CriticalCss.Report

/-!
# Sessions

A session has the variables of its environment and, once they were asked for or chosen, the settings in force. Settings that were
asked for stay in force when the environment changes; settings that could not be read are asked for again the next time.
-/

namespace CriticalCss

variable [Host]

/-- What a session knows. -/
structure Session where
  environment : Environment := []
  /-- The settings in force. -/
  settings : Option Settings := none

/-- Why a session has no report on a file. -/
inductive SessionFault
  | settings (fault : SettingsFault)
  | report (fault : ReportFault)

namespace Session

/-- Sets a variable, or with no value removes it. -/
def setVariable (s : Session) (name : Text) (value : Option Text) : Session :=
  { s with environment := match value with
      | some v => s.environment.put name v
      | none => s.environment.filter (·.1 != name) }

/-- Chooses the settings in force. -/
def choose (s : Session) (settings : Settings) : Session := { s with settings := some settings }

/-- The settings in force; if there are none, those of the environment. -/
def current (s : Session) : Except SettingsFault Settings :=
  match s.settings with
  | some settings => .ok settings
  | none => Settings.ofEnvironment s.environment

/-- The session after its settings were asked for. -/
def settle (s : Session) : Session :=
  match s.current with
  | .ok settings => s.choose settings
  | .error _ => s

/-- The report on a file by given settings, or by those in force. -/
def report (s : Session) (look : Text → Look) (given : Option Settings) (path : Text) : Except SessionFault Report := do
  let settings ← match given with
    | some settings => .ok settings
    | none => s.current.mapError .settings
  (Report.ofFile look settings path).mapError .report

end Session

end CriticalCss
