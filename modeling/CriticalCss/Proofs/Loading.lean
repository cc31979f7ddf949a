import CriticalCss.Proofs.Entries

/-!
# Keys of loaded mappings

A mapping that is put together entry by entry holds a key where it first came, with the value that came last (`Value.keys_put`). So a
mapping that was loaded holds each key once (`Yaml.onceEach_of_load`), and to look for a key is to find all that stands under it.
-/

namespace CriticalCss

open FailingAux

namespace Value

/-! ## Fields -/

/-- A field is looked for from the front. -/
theorem field?_cons (name : Text) (e : Value × Value) (rest : List (Value × Value)) :
    field? name (e :: rest) = if e.1.isText name then some e.2 else field? name rest := by
  obtain ⟨key, value⟩ := e
  cases key with
  | text t => by_cases h : t = name <;> simp [field?, isText, h]
  | _ => rfl

/-- A field is absent if no key is its name. -/
theorem field?_eq_none_iff {name : Text} {entries : List (Value × Value)} :
    field? name entries = none ↔ (entries.map (·.1)).countP (·.isText name) = 0 := by
  induction entries with
  | nil => simp [field?]
  | cons e rest ih =>
    rw [field?_cons, List.map_cons, List.countP_cons]
    cases h : e.1.isText name <;> simp [ih]

/-! ## Keys -/

/-- A key that is put among others stands where the same key stood, or else behind all others. -/
theorem keys_put (key value : Value) (entries : List (Value × Value)) :
    (put key value entries).map (·.1) = entries.map (·.1) ∨
      (put key value entries).map (·.1) = entries.map (·.1) ++ [key] ∧ ∀ e ∈ entries, e.1.sameKey key = false := by
  induction entries with
  | nil => exact Or.inr ⟨rfl, nofun⟩
  | cons e rest ih =>
    obtain ⟨k, v⟩ := e
    rw [put]
    cases hsame : k.sameKey key with
    | true => exact Or.inl rfl
    | false =>
      simp only [Bool.false_eq_true, if_false, List.map_cons, List.cons_append, List.cons.injEq, true_and]
      rcases ih with h | ⟨h, hnone⟩
      · exact Or.inl h
      · refine Or.inr ⟨h, ?_⟩
        intro e he
        rcases List.mem_cons.mp he with rfl | he
        · exact hsame
        · exact hnone e he

/-- A key that is a text stands at most once among the keys. -/
def OnceEach (keys : List Value) : Prop := ∀ name, keys.countP (·.isText name) ≤ 1

/-- Putting an entry keeps the keys different. -/
theorem onceEach_put {entries : List (Value × Value)} (h : OnceEach (entries.map (·.1))) (key value : Value) :
    OnceEach ((put key value entries).map (·.1)) := by
  intro name
  rcases keys_put key value entries with hkeys | ⟨hkeys, hnone⟩
  · rw [hkeys]
    exact h name
  · rw [hkeys, List.countP_append, List.countP_singleton]
    by_cases hkey : key = .text name
    · -- the key is new, so it did not stand among the others
      have hzero : (entries.map (·.1)).countP (·.isText name) = 0 := by
        rw [List.countP_eq_zero]
        intro k hk htext
        obtain ⟨e, he, rfl⟩ := List.mem_map.mp hk
        have hsame := hnone e he
        rw [PatternFile.isText_iff.mp htext, hkey] at hsame
        simp [sameKey] at hsame
      rw [hzero, Nat.zero_add]
      split <;> simp
    · have hfalse : key.isText name ≠ true := fun htext => hkey (PatternFile.isText_iff.mp htext)
      rw [if_neg hfalse]
      exact h name

/-- So do any number of entries, one after the other. -/
theorem onceEach_foldl_put {α : Type} {key value : α → Value} (items : List α) {entries : List (Value × Value)}
    (h : OnceEach (entries.map (·.1))) :
    OnceEach ((items.foldl (fun entries e => put (key e) (value e) entries) entries).map (·.1)) := by
  induction items generalizing entries with
  | nil => exact h
  | cons e rest ih => exact ih (onceEach_put h (key e) (value e))

end Value

namespace Yaml

/-- No scalar is a mapping. -/
theorem scalarValue_ne_mapping (tag : Tag) (t : Text) (closed : List (Value × Value)) : scalarValue tag t ≠ .ok (.mapping closed) := by
  intro h
  cases tag with
  | bool =>
    simp only [scalarValue, truthValue] at h
    split at h
    · cases h
    · split at h <;> cases h
  | int => cases hv : integerValue t <;> simp [scalarValue, hv, Except.map] at h
  | real => cases hv : realValue t <;> simp [scalarValue, hv, Except.map] at h
  | binary =>
    simp only [scalarValue, binaryValue] at h
    split at h
    · split at h <;> cases h
    · cases h
  | time =>
    simp only [scalarValue, timeValue] at h
    split at h
    · cases h
    · split at h
      · split at h <;> cases h
      · split at h <;> cases h
  | _ => cases h

theorem Graph.scalarAt_ne_mapping (g : Graph) (number : Nat) (closed : List (Value × Value)) :
    g.scalarAt number ≠ .ok (.mapping closed) := by
  unfold scalarAt
  split
  · exact scalarValue_ne_mapping _ _ closed
  · exact nofun

/-- Of the keys of a node that is a mapping, each text stands there once. -/
theorem Graph.onceEach_valueAt {g : Graph} {fuel root : Nat} {closed : List (Value × Value)}
    (h : g.valueAt fuel [] root = .mapping closed) : Value.OnceEach (closed.map (·.1)) := by
  cases fuel with
  | zero => cases h
  | succ fuel =>
    simp only [valueAt, levelOf] at h
    split at h
    · cases h
    · cases h
    · cases h
    · cases h
      exact Value.onceEach_foldl_put _ (by intro name; exact Nat.zero_le 1)
    · cases h
    · -- the node is read as a scalar, and that is no mapping
      cases hscalar : g.scalarAt root with
      | error fault =>
        rw [hscalar] at h
        cases h
      | ok v =>
        rw [hscalar] at h
        exact absurd (hscalar.trans (congrArg _ h)) (g.scalarAt_ne_mapping root closed)

/-- A mapping that was loaded holds each key once. -/
theorem onceEach_of_load {source : Text} {closed : List (Value × Value)} (h : load source = .ok (.mapping closed)) :
    Value.OnceEach (closed.map (·.1)) := by
  obtain ⟨⟨g, root⟩, -, h⟩ := bind_eq_ok_iff.mp h
  cases root with
  | none => cases h
  | some root =>
    obtain ⟨-, -, h⟩ := bind_eq_ok_iff.mp h
    exact Graph.onceEach_valueAt (Except.ok.inj h)

end Yaml

end CriticalCss
