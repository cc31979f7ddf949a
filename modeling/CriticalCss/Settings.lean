import CriticalCss.Pattern.File
import CriticalCss.Json.Reader

/-!
# Settings

The patterns that every stylesheet is judged by, and the file that holds more of them. Settings are given, or they are read from
variables of the environment; what is given goes before what is read. The variables of lists hold JSON, and have to hold JSON even
where their lists are given.
-/

namespace CriticalCss

/-! ## The environment -/

/-- The variables of the environment, in the order in which they were first set. -/
abbrev Environment := Ledger Text Text

namespace Environment

/-- The value of a variable. The case of its name does not count; of several variables the last counts. -/
def value? (environment : Environment) (name : Text) : Option Text :=
  (environment.filter fun v => Unicode.lower v.1 == Unicode.lower name).getLast?.map (·.2)

end Environment

/-! ## Settings and their faults -/

variable [Host]

/-- The settings of patterns. -/
structure PatternSettings where
  lists : ForceLists := {}
  /-- The file with more patterns. -/
  file : Option Text := none
  deriving DecidableEq

namespace PatternSettings

/-- The name of the record. -/
def recordName : Text := "PatternSettings".toList

/-- The name of the field of the file. -/
def fileField : Text := "file".toList

/-- The names of the fields, in the order in which they are declared. -/
def fieldNames : List Text := [PatternFile.keepKey, PatternFile.dropKey, fileField]

end PatternSettings

/-- The settings of a whole run. -/
structure Settings where
  patterns : PatternSettings := {}
  deriving DecidableEq

/-- Why there are no settings. -/
inductive SettingsFault
  /-- The variable of a field holds no JSON. -/
  | unreadable (field : Text)
  /-- A value is refused. -/
  | refused (refusal : Refusal)
  deriving DecidableEq, Repr

namespace SettingsFault

/-- What is wrong with settings that cannot be read; settings that are refused have issues instead. -/
def message : SettingsFault → Text
  | .unreadable field =>
    "error parsing value for field \"".toList ++ field ++ "\" from source \"EnvSettingsSource\"".toList
  | .refused (.interrupted cause) => cause.message
  | .refused (.issues _) => []

/-- The fault of settings that stand in a field of other settings. What cannot be read there is a broken rule of the field. -/
def within (step : PathStep) : SettingsFault → SettingsFault
  | .unreadable field => .refused (.issues [⟨[step], .broken (SettingsFault.unreadable field).message⟩])
  | .refused refusal => .refused (refusal.within step)

end SettingsFault

/-! ## Variables that hold JSON -/

/-- The JSON that a text writes, if its integers are short enough to be read. -/
def readShort? (written : Text) : Option Json := if Json.hasLongInteger written then none else Json.read written

/-- The value that a variable holds for a field, if there is room for reading it. A variable that is null counts as one that is not
set. -/
def Environment.fieldValue (environment : Environment) (name field : Text) : Except SettingsFault (Option Value) :=
  match environment.value? name with
  | none => .ok none
  | some written => match Host.exhausted? (.readingJson written) with
    | some message => .error (.refused (.interrupted (.exhausted message)))
    | none => match readShort? written with
      | none => .error (.unreadable field)
      | some .null => .ok none
      | some value => .ok (some (Value.ofJson value))

/-! ## Settings of patterns -/

namespace PatternSettings

/-- The name of the variable of a field. -/
def variableOf (field : Text) : Text := "foldline_patterns_".toList ++ field

/-- The value that the variable of a list holds. -/
def listVariable (environment : Environment) (field : Text) : Except SettingsFault (Option Value) :=
  environment.fieldValue (variableOf field) field

/-- The patterns of a list, each of them a mapping that names its kind, the first of them at an index. All issues are found, unless an
item interrupts this. -/
def checkItems : Nat → List Value → Except Refusal (List Pattern)
  | _, [] => .ok []
  | i, item :: rest =>
    match Pattern.ofTagged item, checkItems (i + 1) rest with
    | .error (.interrupted cause), _ => .error (.interrupted cause)
    | .error (.issues found), .error (.issues more) => .error (.issues (found.map (·.within (.item i)) ++ more))
    | .error (.issues found), .ok _ => .error (.issues (found.map (·.within (.item i))))
    | _, .error refusal => .error refusal
    | .ok p, .ok ps => .ok (p :: ps)

/-- The patterns of a field. -/
def checkList (field : Text) : Option Value → Except Refusal (List Pattern)
  | none => .ok []
  | some (.list items) => (checkItems 0 items).mapError (·.within (.field field))
  | some _ => .error (.issues [⟨[.field field], .notList⟩])

/-- The path of a field. -/
def checkFile (field : Text) : Option Value → Except Refusal (Option Text)
  | none | some .null => .ok none
  | some value => match value.asText with
    | .ok t => .ok (some (Path.normal t))
    | .error _ => .error (.issues [⟨[.field field], .notPath⟩])

/-- The issues of what was given for no field. -/
def unexpected (given : List (Value × Value)) : List Issue :=
  (given.map fun e => e.1.plain).filterMap fun name =>
    if fieldNames.elem name then none else some ⟨[.field name], .unexpected⟩

/-- The issues of a part that was checked. -/
def issuesOf : Except Refusal α → List Issue
  | .error (.issues found) => found
  | _ => []

/-- Settings from the values of their fields. The fields are checked one after the other; an interruption ends this. -/
def ofFields (given : List (Value × Value)) (keep drop file : Option Value) : Except Refusal PatternSettings :=
  match checkList PatternFile.keepKey keep, checkList PatternFile.dropKey drop, checkFile fileField file, unexpected given with
  | .ok keep, .ok drop, .ok file, [] => .ok ⟨⟨keep, drop⟩, file⟩
  | .error (.interrupted cause), _, _, _ | _, .error (.interrupted cause), _, _ => .error (.interrupted cause)
  | keep, drop, file, more => .error (.issues (issuesOf keep ++ issuesOf drop ++ issuesOf file ++ more))

/-- Settings from what is given and, for fields that are not, from the environment. -/
def ofGiven (environment : Environment) (given : List (Value × Value)) : Except SettingsFault PatternSettings := do
  let keep ← listVariable environment PatternFile.keepKey
  let drop ← listVariable environment PatternFile.dropKey
  let file := (environment.value? (variableOf fileField)).map Value.text
  (ofFields given
    (Value.field? PatternFile.keepKey given <|> keep)
    (Value.field? PatternFile.dropKey given <|> drop)
    (Value.field? fileField given <|> file)).mapError .refused

/-- The settings of the environment alone. -/
def ofEnvironment (environment : Environment) : Except SettingsFault PatternSettings := ofGiven environment []

/-- Settings of which every part is given. The variables of the lists are looked at, although they do not count. -/
def ofParts (environment : Environment) (lists : ForceLists) (file : Option Text) : Except SettingsFault PatternSettings := do
  let _ ← listVariable environment PatternFile.keepKey
  let _ ← listVariable environment PatternFile.dropKey
  return ⟨lists, file⟩

end PatternSettings

/-! ## Settings of a run -/

namespace Settings

/-- The name of the field of patterns. -/
def patternsField : Text := "patterns".toList

/-- The name of the variable of patterns. -/
def patternsVariable : Text := "foldline_patterns".toList

/-- The value that the variable of patterns holds. -/
def patternsValue (environment : Environment) : Except SettingsFault (Option Value) :=
  environment.fieldValue patternsVariable patternsField

/-- The name of the field that a key means: the case of a key does not count. -/
def fieldOf (key : Text) : Text :=
  (PatternSettings.fieldNames.find? fun name => Unicode.lower key == name).getD key

/-- Entries under the names of the fields that their keys mean. Of entries for one field the last counts. -/
def underFields (entries : List (Value × Value)) : List (Value × Value) :=
  entries.foldl (fun found e => Value.put (.text (fieldOf e.1.plain)) e.2 found) []

/-- The settings of the environment: those of the variable of patterns before those of the variables of its fields. -/
def ofEnvironment (environment : Environment) : Except SettingsFault Settings := do
  match ← patternsValue environment with
  | none => return ⟨← PatternSettings.ofEnvironment environment⟩
  | some (.mapping entries) =>
    let patterns ← (PatternSettings.ofGiven environment (underFields entries)).mapError (·.within (.field patternsField))
    return ⟨patterns⟩
  | some _ => .error (.refused (.issues [⟨[.field patternsField], .notRecord PatternSettings.recordName⟩]))

/-- Settings with given patterns. The variable of patterns is looked at, although it does not count. -/
def ofPatterns (environment : Environment) (patterns : PatternSettings) : Except SettingsFault Settings := do
  let _ ← patternsValue environment
  return ⟨patterns⟩

end Settings

end CriticalCss
