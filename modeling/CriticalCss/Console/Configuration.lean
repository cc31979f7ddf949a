import CriticalCss.Session
import CriticalCss.Console.Order

/-!
# Configuring a session

The patterns of a command line are added to those of the environment, and a file that it names stands in for the environment's. A
session is only changed when all of this succeeds.
-/

namespace CriticalCss.Console

variable [Host]

/-- Why a session could not be configured. -/
inductive ConfigurationFault
  /-- The environment has no settings of patterns. -/
  | environment (fault : SettingsFault)
  /-- A pattern of the command line is none. -/
  | pattern (fault : PatternFault)
  /-- The settings of patterns are made, and the others cannot be read. -/
  | remaining (fault : SettingsFault)

/-- The settings of patterns that a command line asks for in an environment. -/
def patternSettings (environment : Environment) (force : ForceWords) (file : Option Text) :
    Except ConfigurationFault PatternSettings := do
  let base ← (PatternSettings.ofEnvironment environment).mapError .environment
  let keep ← (Pattern.ofValues (force.keep.map .text)).mapError .pattern
  let drop ← (Pattern.ofValues (force.drop.map .text)).mapError .pattern
  (PatternSettings.ofParts environment (base.lists.append ⟨keep, drop⟩) (file <|> base.file)).mapError .environment

end CriticalCss.Console

namespace CriticalCss.Session

open Console in
/-- The session with the settings that a command line asks for. -/
def configure [Host] (s : Session) (force : ForceWords) (file : Option Text) : Except ConfigurationFault Session := do
  let patterns ← patternSettings s.environment force file
  let settings ← (Settings.ofPatterns s.environment patterns).mapError .remaining
  return s.choose settings

end CriticalCss.Session
