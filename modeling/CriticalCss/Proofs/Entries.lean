import Mathlib.Data.List.Forall2
import CriticalCss.Settings

/-!
# Entries that are read

What a list of patterns holds once it was read. A command line, a variable and a file each write patterns in their own way; read
without a fault, each gives one pattern for each of its entries, in the order of the entries (`Pattern.ofValues_eq_ok_iff`,
`PatternSettings.ofEnvironment_eq_ok_iff`, `PatternFile.read_eq_ok_iff`). The right sides of these statements say what a list holds
without saying how it is read, and they hold exactly where reading succeeds.
-/

namespace CriticalCss

/-! ## Computations that may fail -/

namespace FailingAux

variable {ε ε' α β : Type}

theorem bind_eq_ok_iff {x : Except ε α} {f : α → Except ε β} {b : β} : (x >>= f) = .ok b ↔ ∃ a, x = .ok a ∧ f a = .ok b := by
  cases x with
  | error e => exact ⟨nofun, nofun⟩
  | ok a => exact ⟨fun h => ⟨a, rfl, h⟩, fun ⟨_, ha, h⟩ => Except.ok.inj ha ▸ h⟩

theorem bind_eq_error_iff {x : Except ε α} {f : α → Except ε β} {e : ε} :
    (x >>= f) = .error e ↔ x = .error e ∨ ∃ a, x = .ok a ∧ f a = .error e := by
  cases x with
  | error e' =>
    refine ⟨fun h => Or.inl (congrArg _ (Except.error.inj h)), ?_⟩
    rintro (h | ⟨_, h, -⟩)
    · exact congrArg _ (Except.error.inj h)
    · cases h
  | ok a => exact ⟨fun h => Or.inr ⟨a, rfl, h⟩, fun h => h.elim nofun fun ⟨_, ha, h⟩ => Except.ok.inj ha ▸ h⟩

theorem mapError_eq_ok_iff {x : Except ε α} {f : ε → ε'} {a : α} : x.mapError f = .ok a ↔ x = .ok a := by
  cases x <;> simp [Except.mapError]

theorem mapError_eq_error_iff {x : Except ε α} {f : ε → ε'} {e : ε'} :
    x.mapError f = .error e ↔ ∃ e', x = .error e' ∧ f e' = e := by
  cases x <;> simp [Except.mapError]

theorem toOption_eq_some_iff {x : Except ε α} {a : α} : x.toOption = some a ↔ x = .ok a := by
  cases x <;> simp [Except.toOption]

theorem toOption_eq_none_iff {x : Except ε α} : x.toOption = none ↔ ∃ e, x = .error e := by
  cases x <;> simp [Except.toOption]

/-- Computations that give the same have the same outcome, up to the fault. -/
theorem toOption_eq_of_ok_iff {x y : Except ε α} (h : ∀ a, x = .ok a ↔ y = .ok a) : x.toOption = y.toOption := by
  refine Option.ext fun a => ?_
  rw [toOption_eq_some_iff, toOption_eq_some_iff]
  exact h a

/-- A computation that gives nothing fails. -/
theorem exists_error_of_not_ok {x : Except ε α} (h : ∀ a, x ≠ .ok a) : ∃ e, x = .error e := by
  cases x with
  | ok a => exact absurd rfl (h a)
  | error e => exact ⟨e, rfl⟩

/-- What comes of a computation is a result or a fault of some kind, unless it is a fault of another kind. -/
theorem exists_ok_or_error_iff {x : Except ε α} {p : ε → Prop} :
    ((∃ a, x = .ok a) ∨ ∃ e, x = .error e ∧ p e) ↔ ¬∃ e, x = .error e ∧ ¬p e := by
  cases x with
  | ok a => simp
  | error e => simp

/-- What a computation gives can be looked at by computing it. -/
theorem exists_ok_of_any {x : Except ε α} {p : α → Prop} [DecidablePred p] (h : x.toOption.any (fun a => decide (p a)) = true) :
    ∃ a, x = .ok a ∧ p a := by
  cases x with
  | error e => cases h
  | ok a => exact ⟨a, rfl, of_decide_eq_true h⟩

/-- A list is computed item by item if each item is. -/
theorem mapM_eq_ok_iff {f : α → Except ε β} {items : List α} {results : List β} :
    items.mapM f = .ok results ↔ List.Forall₂ (fun a b => f a = .ok b) items results := by
  induction items generalizing results with
  | nil =>
    rw [List.mapM_nil, List.forall₂_nil_left_iff]
    exact ⟨fun h => (Except.ok.inj h).symm, fun h => h ▸ rfl⟩
  | cons a rest ih =>
    rw [List.mapM_cons, bind_eq_ok_iff, List.forall₂_cons_left_iff]
    constructor
    · rintro ⟨b, hb, h⟩
      obtain ⟨bs, hbs, h⟩ := bind_eq_ok_iff.mp h
      exact ⟨b, bs, hb, ih.mp hbs, (Except.ok.inj h).symm⟩
    · rintro ⟨b, bs, hb, hbs, rfl⟩
      exact ⟨b, hb, bind_eq_ok_iff.mpr ⟨bs, ih.mpr hbs, rfl⟩⟩

/-- Where the items of two lists in a row are computed, the results of the first stand before those of the second. -/
theorem mapM_append_eq_ok_iff {f : α → Except ε β} {before after : List α} {results : List β} :
    (before ++ after).mapM f = .ok results ↔ ∃ bs cs, before.mapM f = .ok bs ∧ after.mapM f = .ok cs ∧ results = bs ++ cs := by
  rw [List.mapM_append, bind_eq_ok_iff]
  constructor
  · rintro ⟨bs, hbs, h⟩
    obtain ⟨cs, hcs, h⟩ := bind_eq_ok_iff.mp h
    exact ⟨bs, cs, hbs, hcs, (Except.ok.inj h).symm⟩
  · rintro ⟨bs, cs, hbs, hcs, rfl⟩
    exact ⟨bs, hbs, bind_eq_ok_iff.mpr ⟨cs, hcs, rfl⟩⟩

theorem mapM_append_eq_error_iff {f : α → Except ε β} {before after : List α} {e : ε} :
    (before ++ after).mapM f = .error e ↔ before.mapM f = .error e ∨ ∃ bs, before.mapM f = .ok bs ∧ after.mapM f = .error e := by
  rw [List.mapM_append, bind_eq_error_iff]
  refine or_congr_right (exists_congr fun bs => and_congr_right fun _ => ?_)
  rw [bind_eq_error_iff]
  exact or_iff_left nofun

/-- A list is not computed because of the first item that is not. -/
theorem mapM_eq_error_iff {f : α → Except ε β} {items : List α} {e : ε} :
    items.mapM f = .error e ↔
      ∃ before a after, items = before ++ a :: after ∧ (∀ b ∈ before, ∃ r, f b = .ok r) ∧ f a = .error e := by
  induction items with
  | nil =>
    refine ⟨nofun, ?_⟩
    rintro ⟨before, a, after, h, -⟩
    exact absurd h.symm (List.append_ne_nil_of_right_ne_nil before (List.cons_ne_nil a after))
  | cons item rest ih =>
    rw [List.mapM_cons, bind_eq_error_iff]
    constructor
    · rintro (h | ⟨r, hr, h⟩)
      · exact ⟨[], item, rest, rfl, nofun, h⟩
      · rw [bind_eq_error_iff, or_iff_left nofun, ih] at h
        obtain ⟨before, a, after, rfl, hbefore, ha⟩ := h
        refine ⟨item :: before, a, after, rfl, ?_, ha⟩
        intro b hb
        rcases List.mem_cons.mp hb with rfl | hb
        · exact ⟨r, hr⟩
        · exact hbefore b hb
    · rintro ⟨before, a, after, hsplit, hbefore, ha⟩
      cases before with
      | nil =>
        cases hsplit
        exact Or.inl ha
      | cons b before =>
        cases hsplit
        obtain ⟨r, hr⟩ := hbefore item List.mem_cons_self
        refine Or.inr ⟨r, hr, bind_eq_error_iff.mpr (Or.inl (ih.mpr ⟨before, a, after, rfl, ?_, ha⟩))⟩
        intro b hb
        exact hbefore b (List.mem_cons_of_mem item hb)

end FailingAux

open FailingAux

/-! ## Command lines -/

namespace Pattern

variable [Host]

/-- Each entry of a list gives a pattern, in the order of the entries. -/
theorem ofValues_eq_ok_iff {entries : List Value} {patterns : List Pattern} :
    ofValues entries = .ok patterns ↔ List.Forall₂ (fun entry p => ofValue entry = .ok p) entries patterns := mapM_eq_ok_iff

/-- Words are entries that are texts. -/
theorem ofValues_text_eq_ok_iff {words : List Text} {patterns : List Pattern} :
    ofValues (words.map .text) = .ok patterns ↔ List.Forall₂ (fun word p => ofText word = .ok p) words patterns := by
  rw [ofValues_eq_ok_iff, List.forall₂_map_left_iff]
  rfl

end Pattern

/-! ## Variables -/

namespace PatternSettings

variable [Host]

/-- What the variable of a list holds: no patterns if it is not set or null, and else a list of mappings, one for each pattern and in
their order. -/
def VariableHolds (environment : Environment) (field : Text) (patterns : List Pattern) : Prop :=
  listVariable environment field = .ok none ∧ patterns = [] ∨
    ∃ items, listVariable environment field = .ok (some (.list items)) ∧
      List.Forall₂ (fun item p => Pattern.ofTagged item = .ok p) items patterns

/-- The file that the environment names. -/
def fileVariable (environment : Environment) : Option Text := (environment.value? (variableOf fileField)).map Path.normal

theorem checkItems_eq_ok_iff {i : Nat} {items : List Value} {patterns : List Pattern} :
    checkItems i items = .ok patterns ↔ List.Forall₂ (fun item p => Pattern.ofTagged item = .ok p) items patterns := by
  induction items generalizing i patterns with
  | nil =>
    rw [checkItems, List.forall₂_nil_left_iff, Except.ok.injEq, eq_comm]
  | cons item rest ih =>
    rw [List.forall₂_cons_left_iff]
    constructor
    · intro h
      unfold checkItems at h
      split at h
      case h_5 p ps hp hps => exact ⟨p, ps, hp, ih.mp hps, (Except.ok.inj h).symm⟩
      all_goals cases h
    · rintro ⟨p, ps, hp, hps, rfl⟩
      unfold checkItems
      rw [hp, ih.mpr hps]

/-- A field is accepted if nothing was given for it, or a list of patterns. -/
theorem checkList_eq_ok_iff {field : Text} {value : Option Value} {patterns : List Pattern} :
    checkList field value = .ok patterns ↔ value = none ∧ patterns = [] ∨
      ∃ items, value = some (.list items) ∧ List.Forall₂ (fun item p => Pattern.ofTagged item = .ok p) items patterns := by
  unfold checkList
  split
  · simp [eq_comm]
  · rw [mapError_eq_ok_iff, checkItems_eq_ok_iff]
    simp
  · rename_i v hnone hlist
    refine ⟨nofun, ?_⟩
    rintro (⟨h, -⟩ | ⟨items, h, -⟩)
    · cases h
    · cases h
      exact absurd rfl (hlist items)

theorem ofFields_eq_ok_iff {given : List (Value × Value)} {keep drop file : Option Value} {s : PatternSettings} :
    ofFields given keep drop file = .ok s ↔
      checkList PatternFile.keepKey keep = .ok s.lists.keep ∧ checkList PatternFile.dropKey drop = .ok s.lists.drop ∧
      checkFile fileField file = .ok s.file ∧ unexpected given = [] := by
  unfold ofFields
  obtain ⟨⟨keeps, drops⟩, path⟩ := s
  split
  · rename_i hkeep hdrop hfile hmore
    rw [hkeep, hdrop, hfile, hmore]
    simp [and_assoc]
  all_goals
    refine ⟨nofun, ?_⟩
    rintro ⟨hkeep, hdrop, hfile, hmore⟩
    simp_all

/-- A variable that can be read holds what its field accepts. -/
theorem variableHolds_iff {environment : Environment} {field : Text} {patterns : List Pattern} :
    VariableHolds environment field patterns ↔
      ∃ value, listVariable environment field = .ok value ∧ checkList field value = .ok patterns := by
  unfold VariableHolds
  constructor
  · rintro (⟨h, rfl⟩ | ⟨items, h, hitems⟩)
    · exact ⟨none, h, rfl⟩
    · exact ⟨_, h, checkList_eq_ok_iff.mpr (Or.inr ⟨items, rfl, hitems⟩)⟩
  · rintro ⟨value, h, hcheck⟩
    rcases checkList_eq_ok_iff.mp hcheck with ⟨rfl, hnil⟩ | ⟨items, rfl, hitems⟩
    · exact Or.inl ⟨h, hnil⟩
    · exact Or.inr ⟨items, h, hitems⟩

/-- The settings of the environment hold what its variables hold. -/
theorem ofEnvironment_eq_ok_iff {environment : Environment} {s : PatternSettings} :
    ofEnvironment environment = .ok s ↔
      VariableHolds environment PatternFile.keepKey s.lists.keep ∧ VariableHolds environment PatternFile.dropKey s.lists.drop ∧
      s.file = fileVariable environment := by
  have hfile : checkFile fileField ((environment.value? (variableOf fileField)).map .text) = .ok (fileVariable environment) := by
    unfold fileVariable
    cases environment.value? (variableOf fileField) <;> rfl
  unfold ofEnvironment ofGiven
  simp only [bind_eq_ok_iff, mapError_eq_ok_iff, ofFields_eq_ok_iff, variableHolds_iff, Value.field?, Option.orElse_eq_orElse,
    Option.orElse_eq_or, Option.none_or, hfile]
  constructor
  · rintro ⟨keep, hkeep, drop, hdrop, hkeeps, hdrops, hpath, -⟩
    exact ⟨⟨keep, hkeep, hkeeps⟩, ⟨drop, hdrop, hdrops⟩, (Except.ok.inj hpath).symm⟩
  · rintro ⟨⟨keep, hkeep, hkeeps⟩, ⟨drop, hdrop, hdrops⟩, hpath⟩
    exact ⟨keep, hkeep, drop, hdrop, hkeeps, hdrops, congrArg _ hpath.symm, rfl⟩

end PatternSettings

/-! ## Files -/

namespace PatternFile

/-- The entries that stand under a key. -/
def entriesUnder (key : Text) (lists : List (Value × List Value)) : List Value := (lists.filter (·.1.isText key)).flatMap (·.2)

theorem isText_iff {t : Text} {v : Value} : v.isText t = true ↔ v = .text t := by
  cases v <;> simp [Value.isText]

/-- A key that a file may have is one of the two. -/
theorem isText_dropKey_of_known {key : Value} (h : isKnownKey key = true) : key.isText dropKey = !key.isText keepKey := by
  simp only [isKnownKey, keys, List.any_cons, List.any_nil, Bool.or_false, Bool.or_eq_true, isText_iff] at h
  rcases h with rfl | rfl <;> decide

theorem entriesUnder_cons (key : Text) (e : Value × List Value) (rest : List (Value × List Value)) :
    entriesUnder key (e :: rest) = (if e.1.isText key then e.2 else []) ++ entriesUnder key rest := by
  unfold entriesUnder
  cases h : e.1.isText key <;> simp [h]

theorem keys_fillEntries (container : Value) (level : Nat) (entries : List (Value × Value)) :
    (Value.fillEntries container level entries).map (·.1) = entries.map (·.1) := by
  induction entries with
  | nil => rfl
  | cons e rest ih => rw [Value.fillEntries, List.map_cons, List.map_cons, ih]

variable [Host]

/-- What a file holds: it can be read, has the shape of a file of patterns, and has one entry for each pattern, in their order. -/
def Holds (look : Text → Look) (path : Text) (force : ForceLists) : Prop :=
  ∃ bytes value lists, look path = .file bytes ∧ loadBytes bytes = .ok value ∧ listsOf value = .ok lists ∧
    List.Forall₂ (fun entry p => Pattern.ofValue entry = .ok p) (entriesUnder keepKey lists) force.keep ∧
    List.Forall₂ (fun entry p => Pattern.ofValue entry = .ok p) (entriesUnder dropKey lists) force.drop

theorem readEntries_eq_ok_iff {key : Value} {position : Nat} {entries : List Value} {patterns : List Pattern} :
    readEntries key position entries = .ok patterns ↔ Pattern.ofValues entries = .ok patterns := by
  rw [Pattern.ofValues_eq_ok_iff]
  induction entries generalizing position patterns with
  | nil => rw [readEntries, List.forall₂_nil_left_iff, Except.ok.injEq, eq_comm]
  | cons entry rest ih =>
    rw [List.forall₂_cons_left_iff]
    constructor
    · intro h
      unfold readEntries at h
      split at h
      · cases h
      · rename_i p hp
        obtain ⟨ps, hps, h⟩ := bind_eq_ok_iff.mp h
        exact ⟨p, ps, hp, ih.mp hps, (Except.ok.inj h).symm⟩
    · rintro ⟨p, ps, hp, hps, rfl⟩
      unfold readEntries
      rw [hp]
      exact bind_eq_ok_iff.mpr ⟨ps, ih.mpr hps, rfl⟩

/-- The lists of a file are read key by key, each in its own order. -/
theorem readLists_eq_ok_iff {lists : List (Value × List Value)} (hknown : ∀ e ∈ lists, isKnownKey e.1 = true) {force : ForceLists} :
    readLists lists = .ok force ↔
      Pattern.ofValues (entriesUnder keepKey lists) = .ok force.keep ∧
      Pattern.ofValues (entriesUnder dropKey lists) = .ok force.drop := by
  induction lists generalizing force with
  | nil =>
    obtain ⟨keep, drop⟩ := force
    constructor
    · intro h
      cases h
      exact ⟨rfl, rfl⟩
    · rintro ⟨hkeep, hdrop⟩
      cases hkeep
      cases hdrop
      rfl
  | cons e rest ih =>
    have hrest : ∀ force : ForceLists, readLists rest = .ok force ↔
        Pattern.ofValues (entriesUnder keepKey rest) = .ok force.keep ∧ Pattern.ofValues (entriesUnder dropKey rest) = .ok force.drop :=
      fun _ => ih fun e he => hknown e (List.mem_cons_of_mem _ he)
    have hdropKey := isText_dropKey_of_known (hknown e List.mem_cons_self)
    obtain ⟨key, entries⟩ := e
    obtain ⟨keep, drop⟩ := force
    simp only [readLists, bind_eq_ok_iff, readEntries_eq_ok_iff, hrest, entriesUnder_cons, hdropKey]
    -- the entries go into one of the two lists, by their key
    cases hkeepKey : key.isText keepKey with
    | true =>
      simp only [if_true, Bool.not_true, Bool.false_eq_true, if_false, List.nil_append, Pattern.ofValues, mapM_append_eq_ok_iff]
      constructor
      · rintro ⟨ps, hps, lists, ⟨hkeeps, hdrops⟩, h⟩
        cases h
        exact ⟨⟨ps, lists.keep, hps, hkeeps, rfl⟩, hdrops⟩
      · rintro ⟨⟨ps, qs, hps, hqs, rfl⟩, hdrops⟩
        exact ⟨ps, hps, ⟨qs, drop⟩, ⟨hqs, hdrops⟩, rfl⟩
    | false =>
      simp only [if_true, Bool.not_false, Bool.false_eq_true, if_false, List.nil_append, Pattern.ofValues, mapM_append_eq_ok_iff]
      constructor
      · rintro ⟨ps, hps, lists, ⟨hkeeps, hdrops⟩, h⟩
        cases h
        exact ⟨hkeeps, ps, lists.drop, hps, hdrops, rfl⟩
      · rintro ⟨hkeeps, ps, qs, hps, hqs, rfl⟩
        exact ⟨ps, hps, ⟨keep, qs⟩, ⟨hkeeps, hqs⟩, rfl⟩

/-- Of a file that has the shape of one, every key is known. -/
theorem known_of_listsOf {value : Value} {lists : List (Value × List Value)} (h : listsOf value = .ok lists) :
    ∀ e ∈ lists, isKnownKey e.1 = true := by
  unfold listsOf at h
  split at h
  · cases h
    exact nofun
  · rename_i closed
    split at h
    · rename_i hunknown
      have hkeys : closed.map (·.1) = lists.map (·.1) := by
        rw [← keys_fillEntries (.mapping closed) 0 closed, ← List.forall₂_eq_eq_eq, List.forall₂_map_left_iff,
          List.forall₂_map_right_iff]
        refine (mapM_eq_ok_iff.mp h).imp fun entry e he => ?_
        split at he <;> cases he
        · rfl
        · rfl
      rw [List.filter_eq_nil_iff, hkeys] at hunknown
      intro e he
      simpa using hunknown e.1 (List.mem_map_of_mem he)
    · cases h
  · cases h

/-- A file that can be read is loaded, and what it holds is read. -/
theorem read_of_file {look : Text → Look} {path : Text} {bytes : List UInt8} (h : look path = .file bytes) :
    read look path = loadBytes bytes >>= ofValue := by
  unfold read
  rw [h]
  rfl

/-- Only from a file something is read. -/
theorem exists_file_of_read {look : Text → Look} {path : Text} {force : ForceLists} (h : read look path = .ok force) :
    ∃ bytes, look path = .file bytes := by
  unfold read at h
  cases hlook : look path with
  | file bytes => exact ⟨bytes, rfl⟩
  | _ => rw [hlook] at h; cases h

/-- Reading a file succeeds exactly if the file holds patterns, and gives what it holds. -/
theorem read_eq_ok_iff {look : Text → Look} {path : Text} {force : ForceLists} :
    read look path = .ok force ↔ Holds look path force := by
  constructor
  · intro h
    obtain ⟨bytes, hlook⟩ := exists_file_of_read h
    rw [read_of_file hlook, bind_eq_ok_iff] at h
    obtain ⟨value, hvalue, h⟩ := h
    obtain ⟨lists, hlists, h⟩ := bind_eq_ok_iff.mp h
    obtain ⟨hkeep, hdrop⟩ := (readLists_eq_ok_iff (known_of_listsOf hlists)).mp h
    exact ⟨bytes, value, lists, hlook, hvalue, hlists, Pattern.ofValues_eq_ok_iff.mp hkeep, Pattern.ofValues_eq_ok_iff.mp hdrop⟩
  · rintro ⟨bytes, value, lists, hlook, hvalue, hlists, hkeep, hdrop⟩
    rw [read_of_file hlook, bind_eq_ok_iff]
    refine ⟨value, hvalue, bind_eq_ok_iff.mpr ⟨lists, hlists, (readLists_eq_ok_iff (known_of_listsOf hlists)).mpr ⟨?_, ?_⟩⟩⟩
    · exact Pattern.ofValues_eq_ok_iff.mpr hkeep
    · exact Pattern.ofValues_eq_ok_iff.mpr hdrop

end PatternFile

end CriticalCss
