import CriticalCss.Proofs.Refusing

/-!
# What a loaded value is answered with

A file of patterns is looked at twice: first at its shape, then at its entries. `PatternFile.Answers` says what comes of a loaded value,
without a computation. A value of another shape is refused for its shape alone, whatever its entries are: first because it is no
mapping, then for its keys, then for the first value that is no list. A value of the right shape is refused for the first entry, in the
order of the file, that is no pattern, and otherwise gives each entry as a pattern. Reading gives this answer and no other
(`PatternFile.answers_iff`). A fault says what is wrong with the file, but for those that end the reading at once: an unknown key may be
too much to be written into the message that tells the keys, and the check of the first entry that is no pattern may be ended, and then
nothing is told about it or about the entries behind it (`PatternFile.Interrupts`).
-/

namespace CriticalCss

open FailingAux

/-- Whether a fault says what is wrong with a file of patterns. -/
def PatternFileFault.Proper : PatternFileFault → Prop
  | .yaml fault => fault = .malformed
  | .notMapping | .unknownKeys _ | .notList _ => True
  | .entry _ _ fault => fault.Proper
  | .absent _ | .unreadable _ _ | .undecodable _ | .interrupted _ => False

namespace PatternFile

/-! ## Answers -/

/-- The items of a value that stands where a list is to stand. Null counts as a list without items. -/
def itemsOf? : Value → Option (List Value)
  | .null => some []
  | .list items => some (Value.openItems items)
  | _ => none

/-- The keys of a mapping that a file may not have. -/
def unknownKeys (closed : List (Value × Value)) : List Value := (closed.map (·.1)).filter fun key => !isKnownKey key

/-- A mapping has only the keys that a file may have, with lists as their values. -/
structure Shaped (closed : List (Value × Value)) (lists : List (Value × List Value)) : Prop where
  known : unknownKeys closed = []
  items : List.Forall₂ (fun e l => itemsOf? e.2 = some l.2 ∧ l.1 = e.1) (Value.openEntries closed) lists

/-- An entry in its place: the key that it stands under, and its position there, counted from one. -/
structure Placed where
  key : Value
  position : Nat
  entry : Value

/-- The entries under one key, the first of them at a position. -/
def placedFrom (key : Value) (position : Nat) (entries : List Value) : List Placed :=
  (entries.zipIdx position).map fun e => ⟨key, e.2, e.1⟩

/-- The entries of a file in their order. -/
def placed (lists : List (Value × List Value)) : List Placed := lists.flatMap fun l => placedFrom l.1 1 l.2

section

variable [Host]

/-- What comes of a loaded value: patterns, or what is wrong with the file. -/
inductive Answers : Value → Except PatternFileFault ForceLists → Prop
  /-- A file that holds nothing has no patterns. -/
  | nothing : Answers .null (.ok {})
  | notMapping {v : Value} (hnull : v ≠ .null) (hmapping : ∀ closed, v ≠ .mapping closed) : Answers v (.error .notMapping)
  /-- Keys that are not known are told all together, -/
  | unknownKeys {closed : List (Value × Value)} (h : unknownKeys closed ≠ [])
      (hwritten : ∀ key ∈ unknownKeys closed, key.plainInterruption? = none) :
      Answers (.mapping closed) (.error (.unknownKeys (unknownKeys closed)))
  /-- unless one of them cannot be written. -/
  | unwrittenKey {closed : List (Value × Value)} {before after : List Value} {key : Value} {cause : Interruption}
      (hsplit : PatternFile.unknownKeys closed = before ++ key :: after) (hbefore : ∀ k ∈ before, k.plainInterruption? = none)
      (hkey : key.plainInterruption? = some cause) : Answers (.mapping closed) (.error (.interrupted cause))
  /-- Of the values that are no lists the first is told. -/
  | notList {closed before after : List (Value × Value)} {key value : Value} (hknown : PatternFile.unknownKeys closed = [])
      (hsplit : Value.openEntries closed = before ++ (key, value) :: after) (hbefore : ∀ e ∈ before, (itemsOf? e.2).isSome = true)
      (hvalue : itemsOf? value = none) : Answers (.mapping closed) (.error (.notList key))
  /-- Of the entries that are no patterns the first is told, with its place. -/
  | entry {closed : List (Value × Value)} {lists : List (Value × List Value)} {before after : List Placed} {bad : Placed}
      {fault : PatternFault} (hshape : Shaped closed lists) (hsplit : placed lists = before ++ bad :: after)
      (hbefore : ∀ e ∈ before, ∃ p, Pattern.ofValue e.entry = .ok p) (hbad : Pattern.ofValue bad.entry = .error fault) :
      Answers (.mapping closed) (.error (.entry bad.key bad.position fault))
  /-- Each entry is a pattern of its list, in the order of the entries. -/
  | lists {closed : List (Value × Value)} {lists : List (Value × List Value)} {force : ForceLists} (hshape : Shaped closed lists)
      (hkeep : List.Forall₂ (fun entry p => Pattern.ofValue entry = .ok p) (entriesUnder keepKey lists) force.keep)
      (hdrop : List.Forall₂ (fun entry p => Pattern.ofValue entry = .ok p) (entriesUnder dropKey lists) force.drop) :
      Answers (.mapping closed) (.ok force)

/-! ## The shape of a file -/

/-- The list of an entry of the mapping. -/
def listOf (e : Value × Value) : Except PatternFileFault (Value × List Value) :=
  match itemsOf? e.2 with
  | some items => .ok (e.1, items)
  | none => .error (.notList e.1)

omit [Host] in
theorem listOf_eq_ok_iff {e : Value × Value} {l : Value × List Value} : listOf e = .ok l ↔ itemsOf? e.2 = some l.2 ∧ l.1 = e.1 := by
  obtain ⟨key, items⟩ := l
  unfold listOf
  cases itemsOf? e.2 with
  | none => simp
  | some found => simp [and_comm, eq_comm]

omit [Host] in
theorem listOf_eq_error_iff {e : Value × Value} {fault : PatternFileFault} :
    listOf e = .error fault ↔ itemsOf? e.2 = none ∧ fault = .notList e.1 := by
  unfold listOf
  cases itemsOf? e.2 with
  | none => simp [eq_comm]
  | some found => simp

/-- A mapping with known keys gives its lists one by one. -/
theorem listsOf_mapping {closed : List (Value × Value)} (h : unknownKeys closed = []) :
    listsOf (.mapping closed) = (Value.openEntries closed).mapM listOf := by
  have hstep : listOf = fun e : Value × Value => match e.2 with
      | .null => .ok (e.1, [])
      | .list items => .ok (e.1, Value.openItems items)
      | _ => .error (.notList e.1) := by
    funext ⟨key, value⟩
    cases value <;> rfl
  have hknown : (closed.map (·.1)).filter (fun key => !isKnownKey key) = [] := h
  rw [hstep]
  simp only [listsOf]
  split
  · rfl
  · rename_i hunknown
    exact absurd hknown hunknown

/-- Keys that are not known are all that is looked at. -/
theorem listsOf_of_unknownKeys {closed : List (Value × Value)} (h : unknownKeys closed ≠ []) :
    listsOf (.mapping closed) = .error (unknownFault (unknownKeys closed)) := by
  simp only [listsOf]
  unfold unknownKeys at h ⊢
  split
  · rename_i hnone
    exact absurd hnone h
  · rfl

theorem unknownFault_of_written {keys : List Value} (h : ∀ key ∈ keys, key.plainInterruption? = none) :
    unknownFault keys = .unknownKeys keys := by
  unfold unknownFault
  rw [List.findSome?_eq_none_iff.mpr h]

theorem unknownFault_of_unwritten {before after : List Value} {key : Value} {cause : Interruption}
    (hbefore : ∀ k ∈ before, k.plainInterruption? = none) (hkey : key.plainInterruption? = some cause) :
    unknownFault (before ++ key :: after) = .interrupted cause := by
  unfold unknownFault
  rw [List.findSome?_eq_some_iff.mpr ⟨before, key, after, rfl, hkey, hbefore⟩]

theorem listsOf_eq_ok_iff {closed : List (Value × Value)} {lists : List (Value × List Value)} :
    listsOf (.mapping closed) = .ok lists ↔ Shaped closed lists := by
  by_cases hknown : unknownKeys closed = []
  · rw [listsOf_mapping hknown, mapM_eq_ok_iff]
    simp only [listOf_eq_ok_iff]
    exact ⟨fun h => ⟨hknown, h⟩, fun h => h.items⟩
  · rw [listsOf_of_unknownKeys hknown]
    exact ⟨nofun, fun h => absurd h.known hknown⟩

/-- Before the first value that is no list stand lists. -/
theorem listsOf_eq_error_iff {closed : List (Value × Value)} {fault : PatternFileFault} (hknown : unknownKeys closed = []) :
    listsOf (.mapping closed) = .error fault ↔
      ∃ before key value after, Value.openEntries closed = before ++ (key, value) :: after ∧
        (∀ e ∈ before, (itemsOf? e.2).isSome = true) ∧ itemsOf? value = none ∧ fault = .notList key := by
  have hlist : ∀ e : Value × Value, (∃ l, listOf e = .ok l) ↔ (itemsOf? e.2).isSome = true := by
    intro e
    simp only [listOf_eq_ok_iff, Option.isSome_iff_exists]
    exact ⟨fun ⟨l, h, _⟩ => ⟨l.2, h⟩, fun ⟨items, h⟩ => ⟨(e.1, items), h, rfl⟩⟩
  rw [listsOf_mapping hknown, mapM_eq_error_iff]
  simp only [hlist, listOf_eq_error_iff]
  constructor
  · rintro ⟨before, ⟨key, value⟩, after, hsplit, hbefore, hvalue, rfl⟩
    exact ⟨before, key, value, after, hsplit, hbefore, hvalue, rfl⟩
  · rintro ⟨before, key, value, after, hsplit, hbefore, hvalue, rfl⟩
    exact ⟨before, (key, value), after, hsplit, hbefore, hvalue, rfl⟩

/-! ## The entries of a file -/

/-- Reads an entry in its place. -/
def readPlaced (e : Placed) : Except PatternFileFault Pattern := (Pattern.ofValue e.entry).mapError (.entry e.key e.position)

/-- The entries under a key are read one by one, and so a fault is that of the first entry that has one. -/
theorem readEntries_eq (key : Value) (position : Nat) (entries : List Value) :
    readEntries key position entries = (placedFrom key position entries).mapM readPlaced := by
  induction entries generalizing position with
  | nil => rfl
  | cons entry rest ih =>
    have hcons : placedFrom key position (entry :: rest) = ⟨key, position, entry⟩ :: placedFrom key (position + 1) rest := by
      simp [placedFrom]
    rw [hcons, List.mapM_cons, readEntries, ih, readPlaced]
    cases Pattern.ofValue entry <;> rfl

theorem readLists_eq_error_iff {lists : List (Value × List Value)} {fault : PatternFileFault} :
    readLists lists = .error fault ↔ (placed lists).mapM readPlaced = .error fault := by
  induction lists with
  | nil =>
    constructor
    · intro h
      cases h
    · intro h
      cases h
  | cons l rest ih =>
    obtain ⟨key, entries⟩ := l
    rw [placed, List.flatMap_cons, mapM_append_eq_error_iff, readLists, bind_eq_error_iff, readEntries_eq]
    refine or_congr_right (exists_congr fun ps => and_congr_right fun _ => ?_)
    rw [bind_eq_error_iff, ih]
    refine or_iff_left ?_
    rintro ⟨force, -, h⟩
    cases h

/-- Before the first entry that is no pattern stand patterns. -/
theorem readLists_eq_error_iff_exists {lists : List (Value × List Value)} {fault : PatternFileFault} :
    readLists lists = .error fault ↔
      ∃ before bad after found, placed lists = before ++ bad :: after ∧ (∀ e ∈ before, ∃ p, Pattern.ofValue e.entry = .ok p) ∧
        Pattern.ofValue bad.entry = .error found ∧ fault = .entry bad.key bad.position found := by
  rw [readLists_eq_error_iff, mapM_eq_error_iff]
  simp only [readPlaced, mapError_eq_ok_iff, mapError_eq_error_iff]
  constructor
  · rintro ⟨before, bad, after, hsplit, hbefore, found, hfound, rfl⟩
    exact ⟨before, bad, after, found, hsplit, hbefore, hfound, rfl⟩
  · rintro ⟨before, bad, after, found, hsplit, hbefore, hfound, rfl⟩
    exact ⟨before, bad, after, hsplit, hbefore, found, hfound, rfl⟩

omit [Host] in
/-- What stands under a key that a mapping has once are the items of its one list. -/
theorem entriesUnder_of_once {key : Text} {entries : List (Value × Value)} {lists : List (Value × List Value)}
    (hitems : List.Forall₂ (fun e l => itemsOf? e.2 = some l.2 ∧ l.1 = e.1) entries lists)
    (honce : (entries.map (·.1)).countP (·.isText key) ≤ 1) :
    entriesUnder key lists = ((Value.field? key entries).bind itemsOf?).getD [] := by
  induction hitems with
  | nil => rfl
  | @cons e l rest more he _ ih =>
    obtain ⟨hitems, hkey⟩ := he
    rw [List.map_cons, List.countP_cons] at honce
    have hmore := ih (by omega)
    rw [entriesUnder_cons, hkey, Value.field?_cons, hmore]
    cases htext : e.1.isText key with
    | true =>
      -- the key stands here, so it does not stand further on
      rw [htext, if_pos rfl] at honce
      have hnone : Value.field? key rest = none := Value.field?_eq_none_iff.mpr (by omega)
      simp [hnone, hitems]
    | false => simp

/-! ## Reading answers -/

theorem ofValue_of_shaped {closed : List (Value × Value)} {lists : List (Value × List Value)} (h : Shaped closed lists) :
    ofValue (.mapping closed) = readLists lists := by
  rw [ofValue, listsOf_eq_ok_iff.mpr h]
  rfl

theorem ofValue_of_listsOf_eq_error {v : Value} {fault : PatternFileFault} (h : listsOf v = .error fault) :
    ofValue v = .error fault := by
  rw [ofValue, h]
  rfl

theorem Answers.ofValue_eq {v : Value} {r : Except PatternFileFault ForceLists} (h : Answers v r) : ofValue v = r := by
  cases h with
  | nothing => rfl
  | notMapping hnull hmapping =>
    refine ofValue_of_listsOf_eq_error ?_
    cases v with
    | null => exact absurd rfl hnull
    | mapping closed => exact absurd rfl (hmapping closed)
    | _ => rfl
  | unknownKeys h hwritten =>
    refine ofValue_of_listsOf_eq_error ?_
    rw [listsOf_of_unknownKeys h, unknownFault_of_written hwritten]
  | unwrittenKey hsplit hbefore hkey =>
    refine ofValue_of_listsOf_eq_error ?_
    rw [listsOf_of_unknownKeys (hsplit ▸ List.append_ne_nil_of_right_ne_nil _ (List.cons_ne_nil _ _)), hsplit,
      unknownFault_of_unwritten hbefore hkey]
  | notList hknown hsplit hbefore hvalue =>
    exact ofValue_of_listsOf_eq_error ((listsOf_eq_error_iff hknown).mpr ⟨_, _, _, _, hsplit, hbefore, hvalue, rfl⟩)
  | entry hshape hsplit hbefore hbad =>
    rw [ofValue_of_shaped hshape]
    exact readLists_eq_error_iff_exists.mpr ⟨_, _, _, _, hsplit, hbefore, hbad, rfl⟩
  | lists hshape hkeep hdrop =>
    rw [ofValue_of_shaped hshape, readLists_eq_ok_iff (known_of_listsOf (listsOf_eq_ok_iff.mpr hshape))]
    exact ⟨Pattern.ofValues_eq_ok_iff.mpr hkeep, Pattern.ofValues_eq_ok_iff.mpr hdrop⟩

/-- What is read of a mapping with known keys is its answer: its shape is judged first, then its entries. -/
theorem answers_mapping {closed : List (Value × Value)} (hknown : unknownKeys closed = []) :
    Answers (.mapping closed) (ofValue (.mapping closed)) := by
  cases hlists : listsOf (.mapping closed) with
  | error fault =>
    rw [ofValue_of_listsOf_eq_error hlists]
    obtain ⟨before, key, value, after, hsplit, hbefore, hvalue, rfl⟩ := (listsOf_eq_error_iff hknown).mp hlists
    exact .notList hknown hsplit hbefore hvalue
  | ok lists =>
    have hshape := listsOf_eq_ok_iff.mp hlists
    rw [ofValue_of_shaped hshape]
    cases hread : readLists lists with
    | error fault =>
      obtain ⟨before, bad, after, found, hsplit, hbefore, hbad, rfl⟩ := readLists_eq_error_iff_exists.mp hread
      exact .entry hshape hsplit hbefore hbad
    | ok force =>
      obtain ⟨hkeep, hdrop⟩ := (readLists_eq_ok_iff (known_of_listsOf hlists)).mp hread
      exact .lists hshape (Pattern.ofValues_eq_ok_iff.mp hkeep) (Pattern.ofValues_eq_ok_iff.mp hdrop)

/-- What is read of a mapping with a key that is not known is its answer: the keys are told, or the first that cannot be written ends
this. -/
theorem answers_of_unknownKeys {closed : List (Value × Value)} (h : unknownKeys closed ≠ []) :
    Answers (.mapping closed) (ofValue (.mapping closed)) := by
  rw [ofValue_of_listsOf_eq_error (listsOf_of_unknownKeys h)]
  cases hfirst : (unknownKeys closed).findSome? (·.plainInterruption?) with
  | none =>
    have hwritten := List.findSome?_eq_none_iff.mp hfirst
    rw [unknownFault_of_written hwritten]
    exact .unknownKeys h hwritten
  | some cause =>
    obtain ⟨before, key, after, hsplit, hkey, hbefore⟩ := List.findSome?_eq_some_iff.mp hfirst
    rw [hsplit, unknownFault_of_unwritten hbefore hkey]
    exact .unwrittenKey hsplit hbefore hkey

theorem answers_ofValue (v : Value) : Answers v (ofValue v) := by
  cases v with
  | null => exact .nothing
  | mapping closed =>
    by_cases hknown : unknownKeys closed = []
    · exact answers_mapping hknown
    · exact answers_of_unknownKeys hknown
  | _ => exact .notMapping nofun nofun

/-- What is read of a loaded value is its one answer. -/
theorem answers_iff {v : Value} {r : Except PatternFileFault ForceLists} : Answers v r ↔ ofValue v = r := by
  constructor
  · exact Answers.ofValue_eq
  · rintro rfl
    exact answers_ofValue v

/-! ## What ends the reading of a loaded value -/

/-- What ends the reading of a loaded value at once. -/
inductive Interrupts : Value → Interruption → Prop
  /-- Of the keys that a file may not have, one cannot be written into the message that tells them. -/
  | key {closed : List (Value × Value)} {before after : List Value} {key : Value} {cause : Interruption}
      (hsplit : unknownKeys closed = before ++ key :: after) (hbefore : ∀ k ∈ before, k.plainInterruption? = none)
      (hkey : key.plainInterruption? = some cause) : Interrupts (.mapping closed) cause
  /-- The value has the shape of a file of patterns, and the check of the first entry that is no pattern is ended. -/
  | entry {closed : List (Value × Value)} {lists : List (Value × List Value)} {before after : List Placed} {bad : Placed}
      {cause : Interruption} (hshape : Shaped closed lists) (hsplit : placed lists = before ++ bad :: after)
      (hbefore : ∀ e ∈ before, ∃ p, Pattern.ofValue e.entry = .ok p) (hbad : Pattern.Interrupts bad.entry cause) :
      Interrupts (.mapping closed) cause

/-- The faults that do not say what is wrong with the file are those that end its reading at once. -/
theorem exists_ofValue_improper_iff {v : Value} :
    (∃ fault, ofValue v = .error fault ∧ ¬fault.Proper) ↔ ∃ cause, Interrupts v cause := by
  constructor
  · rintro ⟨fault, hread, himproper⟩
    have hanswer := answers_iff.mpr hread
    cases hanswer with
    | notMapping hnull hmapping => exact absurd trivial himproper
    | unknownKeys h hwritten => exact absurd trivial himproper
    | unwrittenKey hsplit hbefore hkey => exact ⟨_, .key hsplit hbefore hkey⟩
    | notList hknown hsplit hbefore hvalue => exact absurd trivial himproper
    | entry hshape hsplit hbefore hbad =>
      obtain ⟨cause, rfl⟩ := PatternFault.not_proper_iff.mp himproper
      exact ⟨cause, .entry hshape hsplit hbefore (Pattern.ofValue_eq_interrupted_iff.mp hbad)⟩
  · rintro ⟨cause, h⟩
    cases h with
    | key hsplit hbefore hkey => exact ⟨_, (Answers.unwrittenKey hsplit hbefore hkey).ofValue_eq, id⟩
    | entry hshape hsplit hbefore hbad =>
      have hfault := Pattern.ofValue_eq_interrupted_iff.mpr hbad
      exact ⟨_, (Answers.entry hshape hsplit hbefore hfault).ofValue_eq, id⟩

/-! ## Main statement -/

/-- What a loaded value is answered with, in four parts.
1. The answer to a value is what is read of it, and there is no other.
2. It is patterns, or a fault that says what is wrong with the file, unless something ends the reading at once.
3. Of a mapping that was loaded, the entries under a key are the items of the list that stands under it, and there are none if the key
   is absent or its value is null.
4. A fault that says what is wrong with an entry is told with the key and the position of the entry, and what ends its check is told
   without them. -/
theorem loaded_value_answered (v : Value) :
    (∀ r, Answers v r ↔ ofValue v = r) ∧
    (((∃ force, ofValue v = .ok force) ∨ ∃ fault, ofValue v = .error fault ∧ fault.Proper) ↔ ∀ cause, ¬Interrupts v cause) ∧
    (∀ source closed lists, Yaml.load source = .ok v → v = .mapping closed → Shaped closed lists →
      ∀ key, entriesUnder key lists = ((Value.field? key (Value.openEntries closed)).bind itemsOf?).getD []) ∧
    (∀ key position (fault : PatternFault),
      (fault.Proper → (PatternFileFault.entry key position fault).message =
        "Error in '".toList ++ key.plain ++ "' entry ".toList ++ Text.ofNat position ++ ": ".toList ++ fault.message) ∧
      (¬fault.Proper → (PatternFileFault.entry key position fault).message = fault.message)) := by
  refine ⟨fun r => answers_iff, ?_, ?_, ?_⟩
  · rw [exists_ok_or_error_iff, exists_ofValue_improper_iff, not_exists]
  · rintro source closed lists hload rfl hshape key
    have honce := Yaml.onceEach_of_load hload key
    rw [← keys_fillEntries (.mapping closed) 0 closed] at honce
    exact entriesUnder_of_once hshape.items honce
  · intro key position fault
    cases fault with
    | interrupted cause => exact ⟨False.elim, fun _ => rfl⟩
    | _ => exact ⟨fun _ => rfl, fun h => absurd trivial h⟩

end

open Host.Plain

namespace TwoEntries

/-- A file with a list that is null and a list with these entries. -/
def source (entries : List Text) : Text :=
  "force_exclude:
force_include:
".toList ++ entries.flatMap fun t => '-' :: ' ' :: (t ++ ['
'])

/-- The lists of the file. -/
def lists (entries : List Text) : List (Value × List Value) := [(.text dropKey, []), (.text keepKey, entries.map .text)]

/-- Whether values are these texts. -/
def areTexts : List Value → List Text → Bool
  | [], [] => true
  | .text t :: values, u :: texts => t == u && areTexts values texts
  | _, _ => false

/-- Whether a value is a mapping with the lists of the file. -/
def isLoaded (entries : List Text) : Value → Bool
  | .mapping closed =>
    match listsOf (.mapping closed) with
    | .ok [(.text first, []), (.text second, items)] => first == dropKey && second == keepKey && areTexts items entries
    | _ => false
  | _ => false

theorem eq_of_areTexts {values : List Value} {texts : List Text} (h : areTexts values texts = true) : values = texts.map .text := by
  fun_induction areTexts values texts with
  | case1 => rfl
  | case2 t values u texts ih =>
    obtain ⟨ht, hrest⟩ := Bool.and_eq_true_iff.mp h
    rw [List.map_cons, beq_iff_eq.mp ht, ih hrest]
  | case3 => cases h

/-- A value that was loaded and looked at has the lists of the file. -/
theorem exists_of_isLoaded (entries : List Text)
    (h : (Yaml.load (source entries)).toOption.any (fun v => decide (isLoaded entries v = true)) = true) :
    ∃ closed, Yaml.load (source entries) = .ok (.mapping closed) ∧ Shaped closed (lists entries) := by
  obtain ⟨v, hload, hloaded⟩ := exists_ok_of_any h
  unfold isLoaded at hloaded
  split at hloaded
  · rename_i closed
    split at hloaded
    · rename_i first second items hlists
      simp only [Bool.and_eq_true, beq_iff_eq] at hloaded
      obtain ⟨⟨rfl, rfl⟩, hitems⟩ := hloaded
      rw [eq_of_areTexts hitems] at hlists
      exact ⟨closed, hload, listsOf_eq_ok_iff.mp hlists⟩
    · cases hloaded
  · cases hloaded

/-- A text that opens a group and does not close it. -/
def openGroup : Text := "/(/".toList

/-- A text with a count that is too large. -/
def largeCount : Text := "/a\x7b4294967295\x7d/".toList

/-- Its count is too large. -/
theorem interrupts_largeSource : RegexpPattern.Interrupts "a\x7b4294967295\x7d".toList [] .countTooLarge :=
  .countTooLarge rfl rfl (by decide +kernel)

/-- It asks for this count. -/
theorem asksFor_largeCount : Pattern.AsksFor (.text largeCount) "a\x7b4294967295\x7d".toList [] := .text rfl nofun

/-- The open group is what is wrong with its entry. -/
theorem exists_of_openGroup : ∃ issues, Pattern.ofText openGroup = .error (.malformedText openGroup issues) := by
  have hopen : RegexpPattern.build "(".toList [] = .error (.unsound "(".toList [] (.problem .unterminatedGroup (some 0))) :=
    RegexpPattern.build_eq_error_iff.mpr (Or.inr ⟨rfl, Or.inr ⟨rfl, _, by decide +kernel, rfl⟩⟩)
  exact ⟨_, Pattern.ofText_of_build_eq_error (t := openGroup) rfl hopen rfl⟩

end TwoEntries

open TwoEntries in
/-- A file whose second entry opens a group and does not close it: the list that is null has no entries, and the fault is told with the
key of the other list and position two. -/
theorem loaded_value_answered_of_openGroup :
    ∃ closed fault, Yaml.load (source [".a".toList, openGroup]) = .ok (.mapping closed) ∧
      Shaped closed (lists [".a".toList, openGroup]) ∧
      ((Value.field? dropKey (Value.openEntries closed)).bind itemsOf?).getD [] = [] ∧
      ofValue (.mapping closed) = .error (.entry (.text keepKey) 2 fault) ∧ fault.Proper ∧
      (PatternFileFault.entry (.text keepKey) 2 fault).message =
        "Error in 'force_include' entry 2: Invalid pattern '/(/': ".toList := by
  obtain ⟨closed, hload, hshape⟩ := exists_of_isLoaded [".a".toList, openGroup] (by decide +kernel)
  obtain ⟨issues, hbad⟩ := exists_of_openGroup
  obtain ⟨hanswers, -, hentries, hmessages⟩ := loaded_value_answered (.mapping closed)
  have hlists := hentries _ closed _ hload rfl hshape dropKey
  have htold := (hmessages (.text keepKey) 2 (.malformedText openGroup issues)).1 trivial
  refine ⟨closed, .malformedText openGroup issues, hload, hshape, hlists.symm, ?_, trivial, htold⟩
  have hplaced : placed (lists [".a".toList, openGroup]) =
      [⟨.text keepKey, 1, .text ".a".toList⟩] ++ ⟨.text keepKey, 2, .text openGroup⟩ :: [] := rfl
  refine (hanswers _).mp (.entry hshape hplaced ?_ hbad)
  intro e he
  rw [List.mem_singleton.mp he]
  exact ⟨.literal ".a".toList, rfl⟩

open TwoEntries in
/-- A count that is too large hides what is wrong with an entry behind it. Of two entries the second has a fault that says what is wrong
with it, and the first has none; yet the file gives no patterns, and its fault names neither the second entry nor any other. -/
theorem large_count_hides_entry :
    ∃ closed, Yaml.load (source [largeCount, openGroup]) = .ok (.mapping closed) ∧ Shaped closed (lists [largeCount, openGroup]) ∧
      placed (lists [largeCount, openGroup]) = [⟨.text keepKey, 1, .text largeCount⟩, ⟨.text keepKey, 2, .text openGroup⟩] ∧
      (∀ fault, fault.Proper → Pattern.ofText largeCount ≠ .error fault) ∧
      (∃ fault, Pattern.ofText openGroup = .error fault ∧ fault.Proper) ∧
      ∃ fault, ofValue (.mapping closed) = .error fault ∧ fault.message = "the repetition number is too large".toList := by
  obtain ⟨closed, hload, hshape⟩ := exists_of_isLoaded [largeCount, openGroup] (by decide +kernel)
  have hcount : Pattern.ofText largeCount = .error (.interrupted .countTooLarge) :=
    Pattern.ofText_eq_interrupted_iff.mpr ⟨_, _, asksFor_largeCount, interrupts_largeSource⟩
  refine ⟨closed, hload, hshape, rfl, ?_, ?_, ?_⟩
  · intro fault hproper h
    rw [hcount] at h
    cases h
    exact hproper
  · obtain ⟨issues, hbad⟩ := exists_of_openGroup
    exact ⟨.malformedText openGroup issues, hbad, trivial⟩
  · have hplaced : placed (lists [largeCount, openGroup]) =
        [] ++ ⟨.text keepKey, 1, .text largeCount⟩ :: [⟨.text keepKey, 2, .text openGroup⟩] := rfl
    exact ⟨_, Answers.ofValue_eq (.entry hshape hplaced nofun hcount), rfl⟩

end PatternFile

end CriticalCss
