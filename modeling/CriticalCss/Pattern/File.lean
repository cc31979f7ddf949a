import CriticalCss.Pattern.Entry
import CriticalCss.Selector.Verdict
import CriticalCss.Files
import CriticalCss.Yaml.Load

/-!
# Files of patterns

A file of patterns is a YAML mapping with two lists, either of which may be left out or be null. The shape of the file is checked
before any entry is read. Entries are read in the order of the file, up to the first that is no pattern.
-/

namespace CriticalCss

/-- Why a file gives no patterns. -/
inductive PatternFileFault
  | absent (path : Text)
  | unreadable (path : Text) (fault : AccessFault)
  /-- The bytes are no text. -/
  | undecodable (fault : Utf8.Fault)
  | yaml (fault : Yaml.Fault)
  | notMapping
  | unknownKeys (keys : List Value)
  | notList (key : Value)
  /-- An entry is no pattern. Positions are counted from one. -/
  | entry (key : Value) (position : Nat) (fault : PatternFault)
  /-- A message that is due cannot be written. -/
  | interrupted (cause : Interruption)

namespace PatternFile

/-- The key of the patterns that keep. -/
def keepKey : Text := "force_include".toList

/-- The key of the patterns that drop. -/
def dropKey : Text := "force_exclude".toList

/-- The keys that a file may have. -/
def keys : List Text := [keepKey, dropKey]

end PatternFile

/-- What is wrong with a file, up to the issues if there are any. -/
def PatternFileFault.message : PatternFileFault → Text
  | .absent path => "Patterns file not found: ".toList ++ path
  | .unreadable path fault => fault.message path
  | .undecodable fault => fault.message.toList
  | .yaml fault => fault.message
  | .notMapping => "YAML file must contain a dictionary".toList
  | .unknownKeys keys =>
    "Unknown key(s) ".toList ++ Text.joinWith [',', ' '] (keys.map (·.plain)) ++ ". Expected: ".toList ++
      Text.joinWith [',', ' '] PatternFile.keys
  | .notList key => '\x27' :: (key.plain ++ "' must be a list".toList)
  | .entry key position fault =>
    match fault with
    | .interrupted _ => fault.message
    | _ => "Error in '".toList ++ key.plain ++ "' entry ".toList ++ Text.ofNat position ++ ": ".toList ++ fault.message
  | .interrupted cause => cause.message

/-- The issues that a fault rests on. -/
def PatternFileFault.issues : PatternFileFault → List Issue
  | .entry _ _ fault => fault.issues
  | _ => []

namespace PatternFile

/-- Whether a value is a key that a file may have. -/
def isKnownKey (key : Value) : Bool := keys.any key.isText

variable [Host]

/-- What is wrong with keys that a file may not have. They are told if all of them can be written. -/
def unknownFault (keys : List Value) : PatternFileFault :=
  match keys.findSome? (·.plainInterruption?) with
  | some cause => .interrupted cause
  | none => .unknownKeys keys

/-- The lists of a file with their keys. Null counts as a mapping without keys, and as a list without entries. -/
def listsOf : Value → Except PatternFileFault (List (Value × List Value))
  | .null => .ok []
  | .mapping closed =>
    let entries := Value.openEntries closed
    match (closed.map (·.1)).filter fun key => !isKnownKey key with
    | [] => entries.mapM fun e => match e.2 with
      | .null => .ok (e.1, [])
      | .list items => .ok (e.1, Value.openItems items)
      | _ => .error (.notList e.1)
    | unknown => .error (unknownFault unknown)
  | _ => .error .notMapping

/-- The patterns of some entries, the first of them at a position. -/
def readEntries (key : Value) : Nat → List Value → Except PatternFileFault (List Pattern)
  | _, [] => .ok []
  | position, entry :: rest =>
    match Pattern.ofValue entry with
    | .error fault => .error (.entry key position fault)
    | .ok p => do
      let ps ← readEntries key (position + 1) rest
      return p :: ps

/-- The patterns of a list under the key of a file. -/
def readLists : List (Value × List Value) → Except PatternFileFault ForceLists
  | [] => .ok {}
  | (key, entries) :: rest => do
    let ps ← readEntries key 1 entries
    let lists ← readLists rest
    return if key.isText keepKey then { lists with keep := ps ++ lists.keep } else { lists with drop := ps ++ lists.drop }

/-- The patterns of a loaded value. -/
def ofValue (v : Value) : Except PatternFileFault ForceLists := do readLists (← listsOf v)

/-- The value that a text holds as YAML, if there is room for loading it. -/
def loadText (t : Text) : Except Yaml.Fault Value :=
  match Host.exhausted? (.loading t) with
  | some message => .error (.exhausted message)
  | none => Yaml.load t

/-- The value that the bytes of a file hold. -/
def loadBytes (bytes : List UInt8) : Except PatternFileFault Value :=
  match Utf8.decode bytes with
  | .error fault => .error (.undecodable fault)
  | .ok t => (loadText (Text.unifyBreaks t)).mapError .yaml

/-- The patterns of the file at a path. -/
def read (look : Text → Look) (path : Text) : Except PatternFileFault ForceLists := do
  if ← ((look path).exists?).mapError (.unreadable path) then
    let bytes ← ((look path).bytes).mapError (.unreadable path)
    ofValue (← loadBytes bytes)
  else .error (.absent path)

end PatternFile

end CriticalCss
